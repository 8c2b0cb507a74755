import CephMount.Proofs.Mount.Ending

/-! Which events a mount may report, whatever the boundary answers.

Each operation has events of its own. That the library's flag contradicts the tracked state is
reported where the flag is asked for, and nowhere else.
-/

set_option autoImplicit false

namespace CephMount

variable {σ α β : Type}

namespace Program

/-- Whatever is answered, only events of one kind are reported. -/
def Reports (allowed : Event → Prop) : Program α → Prop
  | done _ => True
  | log event next => allowed event ∧ next.Reports allowed
  | call _ next => ∀ reply, (next reply).Reports allowed

variable {allowed : Event → Prop}

theorem Reports.bind {program : Program α} {next : α → Program β}
    (first : program.Reports allowed) (rest : ∀ result, (next result).Reports allowed) :
    (program.bind next).Reports allowed := by
  induction program with
  | done result => exact rest result
  | log event following ih => exact ⟨first.1, ih first.2⟩
  | call request following ih => exact fun reply => ih reply (first reply)

theorem Reports.mono {program : Program α} {wider : Event → Prop} (reports : program.Reports allowed)
    (permits : ∀ event, allowed event → wider event) : program.Reports wider := by
  induction program with
  | done result => exact trivial
  | log event next ih => exact ⟨permits event reports.1, ih reports.2⟩
  | call request next ih => exact fun reply => ih reply (reports reply)

/-- A run reports what its program may, also when a refused call cuts it short. -/
theorem Reports.of_run {program : Program α} (reports : program.Reports allowed)
    (boundary : Boundary σ) (state : σ) {event : Event}
    (member : .reported event ∈ (program.run boundary state).entries) : allowed event := by
  induction program generalizing state with
  | done result => cases member
  | log other next ih =>
    rcases List.mem_cons.mp member with same | member
    · cases same
      exact reports.1
    · exact ih reports.2 state member
  | call request next ih =>
    rw [run] at member
    split at member
    · cases member
    · rcases List.mem_cons.mp member with same | member
      · cases same
      · exact ih _ (reports _) _ member

end Program

/-! The events of an operation, of an end and of a beginning. -/

def Operation.mayReport : Operation → Event → Bool
  | configure _, .callFailed .. | configure _, .configured .. => true
  | mount, .callFailed .. | mount, .stateChanged .. => true
  | unmount, .callFailed .. | unmount, .stateChanged .. => true
  | getOption _, .callFailed .. | sync, .callFailed .. | path _, .callFailed .. => true
  | isMounted, .flagDisagrees .. => true
  | command _, .commandFailed .. => true
  | _, _ => false

def Event.endsMount : Event → Bool
  | callFailed .. | released _ | releaseRefused .. => true
  | droppedUnmountFailed .. | droppedReleased _ | droppedReleaseFailed .. => true
  | _ => false

/-- A preparation that fails ends the mount that it began. -/
def Event.beginsMount : Event → Bool
  | allocationFailed .. | allocated .. | derived _ | configured .. => true
  | event => event.endsMount

theorem Event.beginsMount_of_endsMount {event : Event} (ends : event.endsMount = true) :
    event.beginsMount = true := by
  cases event <;> first | rfl | cases ends

theorem checkedCode_reports {allowed : Event → Prop}
    (failed : ∀ call error, allowed (.callFailed call error)) (call : String) (code : Int32) :
    (checkedCode call code).Reports allowed := by
  unfold checkedCode
  cases check code with
  | ok => exact trivial
  | error error => exact ⟨failed call error, trivial⟩

namespace Mount

variable {allowed : Event → Prop}

theorem checked_reports (failed : ∀ call error, allowed (.callFailed call error)) (mount : Mount)
    (request : Request) : (mount.checked request).Reports allowed :=
  fun code => checkedCode_reports failed _ code

theorem configure_reports (failed : ∀ call error, allowed (.callFailed call error))
    (changed : ∀ before after, allowed (.configured before after)) (mount : Mount)
    (setting : Setting) : (mount.configure setting).Reports allowed := by
  unfold configure
  split
  · exact trivial
  · refine (mount.checked_reports failed _).bind fun outcome => ?_
    cases outcome with
    | error error => exact trivial
    | ok =>
      unfold markConfigured
      dsimp only
      split
      · exact trivial
      · exact ⟨changed _ _, trivial⟩

theorem readOption_reports (failed : ∀ call error, allowed (.callFailed call error)) (mount : Mount)
    (key : Terminated) (growths size : Nat) :
    (mount.readOption key growths size).Reports allowed := by
  have finished (answer : OptionAnswer) : (readOption.finish answer).Reports allowed := by
    refine (checkedCode_reports failed _ _).bind fun outcome => ?_
    cases outcome <;> exact trivial
  induction growths generalizing size with
  | zero =>
    unfold readOption
    exact finished
  | succ growths ih =>
    unfold readOption
    intro answer
    change (if answer.code = _ then _ else _ : Program _).Reports _
    split
    · exact ih _
    · exact finished answer

theorem advance_reports (failed : ∀ call error, allowed (.callFailed call error))
    (changed : ∀ handle before after, allowed (.stateChanged handle before after)) (mount : Mount)
    (request : Request) (after : MountState) : (mount.advance request after).Reports allowed := by
  refine (mount.checked_reports failed request).bind fun outcome => ?_
  cases outcome with
  | error error => exact trivial
  | ok => exact ⟨changed _ _ _, trivial⟩

theorem takeBuffer_reports (part : ReplyPart) (returned : Returned) :
    (takeBuffer part returned).Reports allowed := by
  unfold takeBuffer
  split
  · exact trivial
  · exact fun _ => trivial

theorem send_reports (failed : ∀ target error info, allowed (.commandFailed target error info))
    (mount : Mount) (target : String) (command : Command) :
    (mount.send target command).Reports allowed := by
  intro answer
  refine (takeBuffer_reports .status _).bind fun status => ?_
  refine (takeBuffer_reports .output _).bind fun output => ?_
  dsimp only
  split
  · exact ⟨failed _ _ _, trivial⟩
  · exact trivial

theorem perform_reports (mount : Mount) (operation : Operation) :
    (mount.perform operation).Reports fun event => operation.mayReport event = true := by
  cases operation with
  | configure setting =>
    exact (mount.configure_reports (fun _ _ => rfl) (fun _ _ => rfl) setting).bind fun _ => trivial
  | mount | unmount =>
    exact (mount.advance_reports (fun _ _ => rfl) (fun _ _ _ => rfl) _ _).bind fun _ => trivial
  | getOption key =>
    refine Program.Reports.bind ?_ fun _ => trivial
    unfold getOption
    split
    · exact trivial
    · exact mount.readOption_reports (fun _ _ => rfl) _ _ _
  | isMounted =>
    refine Program.Reports.bind (fun code => ?_) fun _ => trivial
    simp only [Program.bind_eq_bind, Program.bind]
    split
    · exact ⟨rfl, trivial⟩
    · exact trivial
  | sync => exact (mount.checked_reports (fun _ _ => rfl) _).bind fun _ => trivial
  | currentDir => exact fun _ => trivial
  | path operation =>
    refine Program.Reports.bind ?_ fun _ => trivial
    unfold atPath
    split
    · exact trivial
    · exact mount.checked_reports (fun _ _ => rfl) _
  | command line =>
    refine Program.Reports.bind ?_ fun _ => trivial
    unfold command
    split
    · exact trivial
    split
    · exact trivial
    · exact (mount.send_reports (fun _ _ _ => rfl) _ _).bind fun _ => trivial

theorem drop_reports (mount : Mount) :
    mount.drop.Reports fun event => event.endsMount = true := by
  have released : mount.dropRelease.Reports fun event => event.endsMount = true := by
    intro code
    change (mount.reportReleased code).Reports _
    unfold reportReleased
    cases check code <;> exact ⟨rfl, trivial⟩
  rw [drop_eq]
  split
  · refine Program.Reports.bind (fun code => ?_) fun _ => released
    change (mount.reportUnmounted code).Reports _
    unfold reportUnmounted
    cases check code with
    | ok => exact trivial
    | error error => exact ⟨rfl, trivial⟩
  · exact released

theorem release_reports (mount : Mount) :
    mount.release.Reports fun event => event.endsMount = true := by
  rw [release_eq]
  intro code
  change (if code = 0 then _ else _ : Program _).Reports _
  split
  · exact ⟨rfl, trivial⟩
  · exact ⟨rfl, rfl, mount.drop_reports.bind fun _ => trivial⟩

theorem allocated_reports (call : String) {success : Handle → Event}
    (begins : ∀ handle, (success handle).beginsMount = true) (answer : Except Int32 Handle) :
    (allocated call success answer).Reports fun event => event.beginsMount = true := by
  cases answer with
  | ok handle => exact ⟨begins handle, trivial⟩
  | error code => exact ⟨rfl, trivial⟩

theorem create_reports (id : Option String) :
    (create id).Reports fun event => event.beginsMount = true := by
  unfold create
  split
  · exact trivial
  · exact fun answer => allocated_reports _ (fun _ => rfl) answer

theorem prepare_reports (mount : Mount) (settings : List Setting) :
    (mount.prepare settings).Reports fun event => event.beginsMount = true := by
  induction settings generalizing mount with
  | nil => exact trivial
  | cons setting rest ih =>
    refine (mount.configure_reports (fun _ _ => rfl) (fun _ _ => rfl) setting).bind fun result => ?_
    obtain ⟨outcome, next⟩ := result
    cases outcome with
    | ok => exact ih next
    | error error =>
      exact (next.drop_reports.mono fun _ => Event.beginsMount_of_endsMount).bind fun _ => trivial

end Mount

theorem Creation.program_reports (creation : Creation) :
    creation.program.Reports fun event => event.beginsMount = true := by
  cases creation with
  | fresh id => exact Mount.create_reports id
  | derived cluster => exact fun answer => Mount.allocated_reports _ (fun _ => rfl) answer
  | prepared config =>
    refine (Mount.create_reports _).bind fun outcome => ?_
    cases outcome with
    | error error => exact trivial
    | ok mount => exact mount.prepare_reports _

end CephMount
