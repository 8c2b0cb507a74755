import CephMount.Mount.Creation
import CephMount.Proofs.Program
import CephMount.Proofs.Trace

/-! Which calls the operations on a mount make, whatever the boundary answers.

An operation calls on the mount's own handle alone and never releases it, and leaves a mount on the
same handle. Quiet operations, which are all but mounting, unmounting and commands, also leave whether
it is tracked as mounted.
-/

set_option autoImplicit false

namespace CephMount

variable {σ : Type}

/-- Requests after which the handle may be mounted where it was not, or not where it was. -/
def Request.changesMount : Request → Bool
  | mount _ | unmount | release => true
  | _ => false

/-- A call on the handle that can change neither whether it is mounted nor which buffers are out. -/
def Call.Quiet (handle : Handle) : Call → Prop
  | .request holder asked => holder = handle ∧ asked.changesMount = false
  | .readOption holder _ _ | .currentDir holder => holder = handle
  | .command _ _ | .freeBuffer _ _ | .create _ | .createFromCluster _ | .version => False

/-- A call on the handle that neither hands buffers out nor takes them back. -/
def Call.Plain (handle : Handle) : Call → Prop
  | .request holder _ | .readOption holder _ _ | .currentDir holder => holder = handle
  | .command _ _ | .freeBuffer _ _ | .create _ | .createFromCluster _ | .version => False

theorem Call.Quiet.plain {handle : Handle} {call : Call} (quiet : call.Quiet handle) :
    call.Plain handle := by
  cases call with
  | request holder request => exact quiet.1
  | readOption holder key buffer | currentDir holder => exact quiet
  | _ => cases quiet

/-- A call that an operation on the handle may make. -/
inductive Call.Uses (handle : Handle) : Call → Prop where
  | quiet {call : Call} : call.Quiet handle → Uses handle call
  | mount : Uses handle (.request handle (.mount none))
  | unmount : Uses handle (.request handle .unmount)
  | command (command : Command) : Uses handle (.command handle command)
  | freeBuffer (part : ReplyPart) (id : BufferId) : Uses handle (.freeBuffer part id)

/-- Operations that make quiet calls alone. -/
def Operation.isQuiet : Operation → Bool
  | mount | unmount | command _ => false
  | _ => true

theorem Except.of_bind_eq_ok {ε α β : Type} {first : Except ε α} {next : α → Except ε β} {result : β}
    (accepted : (first >>= next) = .ok result) :
    ∃ value, first = .ok value ∧ next value = .ok result := by
  cases first with
  | error refusal => cases accepted
  | ok value => exact ⟨value, rfl, accepted⟩

theorem Setting.request_quiet {setting : Setting} {request : Request}
    (accepted : setting.request = .ok request) : request.changesMount = false := by
  cases setting with
  | defaultConfig => cases accepted; rfl
  | configFile path =>
    obtain ⟨list, -, accepted⟩ := Except.of_bind_eq_ok accepted
    cases accepted; rfl
  | environment name =>
    obtain ⟨text, -, accepted⟩ := Except.of_bind_eq_ok accepted
    cases accepted; rfl
  | option key value =>
    obtain ⟨name, -, accepted⟩ := Except.of_bind_eq_ok accepted
    obtain ⟨text, -, accepted⟩ := Except.of_bind_eq_ok accepted
    cases accepted; rfl

theorem PathOperation.request_quiet {operation : PathOperation} {request : Request}
    (accepted : operation.request = .ok request) : request.changesMount = false := by
  cases operation <;>
    (obtain ⟨path, -, accepted⟩ := Except.of_bind_eq_ok accepted; cases accepted; rfl)

theorem checkedCode_zero (call : String) : checkedCode call 0 = .done (.ok ()) := rfl

theorem checkedCode_of_ne (call : String) {code : Int32} (failed : code ≠ 0) :
    checkedCode call code =
      .log (.callFailed call ⟨code⟩) (.done (.error (.library ⟨code⟩))) := by
  unfold checkedCode
  rw [(check_eq_error_iff code ⟨code⟩).mpr ⟨failed, rfl⟩]
  rfl

theorem checkedCode_within {allowed : Call → Prop} (call : String) (code : Int32) :
    (checkedCode call code).Within allowed fun _ => True := by
  unfold checkedCode
  cases check code <;> exact trivial

namespace Mount

theorem checked_within {allowed : Call → Prop} (mount : Mount) {request : Request}
    (permitted : allowed (.request mount.handle request)) :
    (mount.checked request).Within allowed fun _ => True :=
  ⟨permitted, fun code => checkedCode_within _ code⟩

/-- What every quiet operation leaves of the mount. -/
def SameHolding (mount after : Mount) : Prop :=
  after.handle = mount.handle ∧ after.state.isMounted = mount.state.isMounted

theorem SameHolding.trans {first second third : Mount} (left : first.SameHolding second)
    (right : second.SameHolding third) : first.SameHolding third :=
  ⟨right.1.trans left.1, right.2.trans left.2⟩

theorem markConfigured_within {allowed : Call → Prop} (mount : Mount) :
    mount.markConfigured.Within allowed mount.SameHolding := by
  obtain ⟨handle, state⟩ := mount
  cases state <;> exact ⟨rfl, rfl⟩

/-- A step in configuring makes no call but its own request. -/
theorem configure_calls {allowed : Call → Prop} (mount : Mount) (setting : Setting)
    (permitted : ∀ request, setting.request = .ok request →
      allowed (.request mount.handle request)) :
    (mount.configure setting).Within allowed fun result => mount.SameHolding result.2 := by
  unfold configure
  split
  · exact ⟨rfl, rfl⟩
  next request accepted =>
    rw [Program.bind_eq_bind, Program.within_bind]
    apply (mount.checked_within (permitted request accepted)).mono
    intro outcome _
    cases outcome with
    | error error => exact ⟨rfl, rfl⟩
    | ok => exact (Program.within_bind ..).mpr (mount.markConfigured_within.mono fun _ same => same)

theorem configure_within (mount : Mount) (setting : Setting) :
    (mount.configure setting).Within (Call.Quiet mount.handle)
      fun result => mount.SameHolding result.2 :=
  mount.configure_calls setting fun _ accepted => ⟨rfl, Setting.request_quiet accepted⟩

theorem readOption_within (mount : Mount) (key : Terminated) (growths size : Nat) :
    (mount.readOption key growths size).Within (Call.Quiet mount.handle) fun _ => True := by
  have finished (answer : OptionAnswer) :
      (readOption.finish answer).Within (Call.Quiet mount.handle) fun _ => True := by
    unfold readOption.finish
    rw [Program.bind_eq_bind, Program.within_bind]
    apply (checkedCode_within _ _).mono
    intro outcome _
    cases outcome <;> exact trivial
  -- Each round doubles the size, so the induction is over all sizes.
  induction growths generalizing size with
  | zero =>
    unfold readOption
    exact ⟨rfl, finished⟩
  | succ growths ih =>
    unfold readOption
    refine ⟨rfl, fun answer => ?_⟩
    change (if answer.code = _ then _ else _ : Program _).Within _ _
    split
    · exact ih _
    · exact finished answer

theorem getOption_within (mount : Mount) (key : String) :
    (mount.getOption key).Within (Call.Quiet mount.handle) fun _ => True := by
  unfold getOption
  split
  · exact trivial
  · exact mount.readOption_within _ _ _

theorem isMounted_within {allowed : Call → Prop} (mount : Mount)
    (permitted : allowed (.request mount.handle .isMounted)) :
    mount.isMounted.Within allowed fun _ => True := by
  refine ⟨permitted, fun code => ?_⟩
  simp only [Program.bind_eq_bind, Program.bind]
  split <;> exact trivial

theorem atPath_within (mount : Mount) (operation : PathOperation) :
    (mount.atPath operation).Within (Call.Quiet mount.handle) fun _ => True := by
  unfold atPath
  split
  · exact trivial
  next request accepted =>
    exact mount.checked_within ⟨rfl, PathOperation.request_quiet accepted⟩

theorem takeBuffer_within {allowed : Call → Prop} (part : ReplyPart) (returned : Returned)
    (frees : ∀ id, allowed (.freeBuffer part id)) :
    (takeBuffer part returned).Within allowed fun _ => True := by
  unfold takeBuffer
  split
  · exact trivial
  · exact ⟨frees _, fun _ => trivial⟩

theorem send_within {allowed : Call → Prop} (mount : Mount) (target : String) (command : Command)
    (sends : allowed (.command mount.handle command))
    (frees : ∀ part id, allowed (.freeBuffer part id)) :
    (mount.send target command).Within allowed fun _ => True := by
  refine ⟨sends, fun answer => ?_⟩
  simp only [Program.bind_eq_bind, Program.bind, Program.within_bind]
  apply (takeBuffer_within _ _ (frees _)).mono
  intro status _
  apply (takeBuffer_within _ _ (frees _)).mono
  intro output _
  split <;> exact trivial

theorem command_within (mount : Mount) (line : CommandLine) :
    (mount.command line).Within (Call.Uses mount.handle) fun _ => True := by
  unfold command
  split
  · exact trivial
  split
  · exact trivial
  · rw [Program.bind_eq_bind, Program.within_bind]
    exact (mount.send_within _ _ (.command _) fun part id => .freeBuffer part id).mono fun _ _ => trivial

theorem perform_quiet (mount : Mount) {operation : Operation} (quiet : operation.isQuiet = true) :
    (mount.perform operation).Within (Call.Quiet mount.handle)
      fun result => mount.SameHolding result.2 := by
  cases operation with
  | configure setting =>
    exact (Program.within_bind ..).mpr ((mount.configure_within setting).mono fun _ same => same)
  | getOption key =>
    exact (Program.within_bind ..).mpr ((mount.getOption_within key).mono fun _ _ => ⟨rfl, rfl⟩)
  | isMounted =>
    exact (Program.within_bind ..).mpr ((mount.isMounted_within ⟨rfl, rfl⟩).mono fun _ _ => ⟨rfl, rfl⟩)
  | sync =>
    exact (Program.within_bind ..).mpr
      ((mount.checked_within ⟨rfl, rfl⟩).mono fun _ _ => ⟨rfl, rfl⟩)
  | currentDir => exact ⟨rfl, fun _ => ⟨rfl, rfl⟩⟩
  | path operation =>
    exact (Program.within_bind ..).mpr ((mount.atPath_within operation).mono fun _ _ => ⟨rfl, rfl⟩)
  | mount | unmount | command line => cases quiet

/-- A checked request that a transition follows when it succeeds. -/
def advance (mount : Mount) (request : Request) (after : MountState) :
    Program (Outcome Unit × Mount) := do
  match ← mount.checked request with
  | .error error => return (.error error, mount)
  | .ok () => return (.ok (), ← mount.transition after)

theorem mount_eq (mount : Mount) : mount.mount = mount.advance (.mount none) .mounted := rfl

theorem unmount_eq (mount : Mount) : mount.unmount = mount.advance .unmount .unmounted := rfl

theorem advance_within {allowed : Call → Prop} (mount : Mount) {request : Request}
    (after : MountState) (permitted : allowed (.request mount.handle request)) :
    (mount.advance request after).Within allowed fun result => result.2.handle = mount.handle := by
  rw [advance, Program.bind_eq_bind, Program.within_bind]
  apply (mount.checked_within permitted).mono
  intro outcome _
  cases outcome <;> exact rfl

/-- Every operation calls on its own handle alone, and releases nothing. -/
theorem perform_within (mount : Mount) (operation : Operation) :
    (mount.perform operation).Within (Call.Uses mount.handle)
      fun result => result.2.handle = mount.handle := by
  by_cases quiet : operation.isQuiet = true
  · exact ((mount.perform_quiet quiet).mono fun _ same => same.1).widen fun _ => .quiet
  -- Three operations are left, and each may do more than look.
  cases operation with
  | mount =>
    rw [perform, mount_eq]
    exact (Program.within_bind ..).mpr ((mount.advance_within .mounted .mount).mono fun _ same => same)
  | unmount =>
    rw [perform, unmount_eq]
    exact (Program.within_bind ..).mpr
      ((mount.advance_within .unmounted .unmount).mono fun _ same => same)
  | command line =>
    exact (Program.within_bind ..).mpr ((mount.command_within line).mono fun _ _ => rfl)
  | _ => exact absurd rfl quiet

/-- What holds of programs that make plain calls alone and of those that send a command, and is kept by
sequencing, holds of every operation. -/
theorem perform_composed (mount : Mount) (motive : {α : Type} → Program α → Prop)
    (done : ∀ {α : Type} (result : α), motive (.done result))
    (bind : ∀ {α β : Type} {program : Program α} {next : α → Program β}, motive program →
      (∀ result, motive (next result)) → motive (program.bind next))
    (plain : ∀ {α : Type} {program : Program α} {post : α → Prop},
      program.Within (Call.Plain mount.handle) post → motive program)
    (send : ∀ target command, motive (mount.send target command)) (operation : Operation) :
    motive (mount.perform operation) := by
  by_cases quiet : operation.isQuiet = true
  · exact plain ((mount.perform_quiet quiet).widen fun _ quiet => quiet.plain)
  have advanced (request : Request) (after : MountState) : motive (mount.advance request after) :=
    plain (mount.advance_within after rfl)
  cases operation with
  | mount => exact bind (advanced (.mount none) .mounted) fun _ => done _
  | unmount => exact bind (advanced .unmount .unmounted) fun _ => done _
  | command line =>
    refine bind ?_ fun _ => done _
    unfold command
    split
    · exact done _
    · split
      · exact done _
      · exact bind (send _ _) fun _ => done _
  | _ => exact absurd rfl quiet

end Mount

/-! The entries that uses of a handle leave. -/

/-- An entry that uses the handle and does not end it. -/
def Entry.Uses (handle : Handle) : Entry → Prop
  | .called call _ => call.Uses handle
  | .reported _ => True

theorem Call.Uses.handle? {handle : Handle} {call : Call} (uses : call.Uses handle) :
    call.handle? = none ∨ call.handle? = some handle := by
  cases uses with
  | quiet quiet =>
    cases call with
    | request holder request => exact .inr (congrArg some quiet.1)
    | readOption holder key buffer => exact .inr (congrArg some quiet)
    | currentDir holder => exact .inr (congrArg some quiet)
    | _ => cases quiet
  | freeBuffer part id => exact .inl rfl
  | mount | unmount | command command => exact .inr rfl

theorem Entry.Uses.made? {handle : Handle} {entry : Entry} (uses : entry.Uses handle) :
    entry.made? = none := by
  cases entry with
  | reported event => rfl
  | called call reply =>
    cases uses with
    | quiet quiet => cases call <;> first | rfl | cases quiet
    | _ => rfl

theorem Entry.Uses.releaseCode? {handle : Handle} {entry : Entry} (uses : entry.Uses handle)
    (other : Handle) : entry.releaseCode? other = none := by
  cases entry with
  | reported event => rfl
  | called call reply =>
    cases uses with
    | quiet quiet =>
      cases call with
      | request holder request =>
        cases request with
        | release => cases quiet.2
        | _ => rfl
      | _ => rfl
    | _ => rfl

theorem Program.Meets.uses {α : Type} {program : Program α} {discipline : Discipline σ} {state : σ}
    {handle : Handle} {post : List Entry → α → σ → Prop} {out : α → Prop}
    (meets : program.Meets discipline state post) (within : program.Within (Call.Uses handle) out) :
    program.Meets discipline state fun entries result after =>
      post entries result after ∧ out result ∧ ∀ entry ∈ entries, entry.Uses handle := by
  apply (meets.within within).mono
  intro entries result after holds
  refine ⟨holds.1, holds.2.1, fun entry member => ?_⟩
  cases entry with
  | called call reply => exact holds.2.2 call reply member
  | reported event => exact trivial

theorem Call.Uses.creates {handle : Handle} {call : Call} (uses : call.Uses handle) :
    call.creates = false := by
  cases uses with
  | quiet quiet => cases call <;> first | rfl | cases quiet
  | _ => rfl

/-- A program that makes no creating call leaves no handle as made. -/
theorem Program.Meets.makesNone {α : Type} {program : Program α} {discipline : Discipline σ} {state : σ}
    {post : List Entry → α → σ → Prop} {out : α → Prop} (meets : program.Meets discipline state post)
    (within : program.Within (fun call => call.creates = false) out) :
    program.Meets discipline state fun entries result after =>
      post entries result after ∧ Trace.made entries = [] := by
  refine (meets.within within).mono fun entries result after holds => ⟨holds.1, ?_⟩
  refine List.filterMap_eq_nil_iff.mpr fun entry member => ?_
  cases entry with
  | reported event => rfl
  | called call reply => exact Entry.made?_of_creates (holds.2.2 call reply member) reply

/-- A program that only uses a handle leaves no other entries, whatever is answered. -/
theorem Program.Within.uses {α : Type} {program : Program α} {handle : Handle} {post : α → Prop}
    (within : program.Within (Call.Uses handle) post) (answers : Answers σ) (state : σ) :
    program.Meets (.answering answers) state fun entries result _ =>
      post result ∧ ∀ entry ∈ entries, entry.Uses handle := by
  have kept : program.Meets (.answering answers) state fun _ result _ => post result ∧ True :=
    within.meets (fun _ _ _ _ => ⟨trivial, _, _, rfl, trivial⟩) trivial
  exact (kept.uses within).mono fun _ _ _ holds => holds.2

end CephMount
