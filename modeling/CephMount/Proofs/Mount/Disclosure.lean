import CephMount.Proofs.Mount.Course
import CephMount.Proofs.Mount.FailureReports

/-! No failure of the library goes untold, over a boundary that may answer anything.

Each program of a mount tells of the failures of its own calls. Main statement: in the trace of a whole
life the failures that are told are those of its calls, one for each and in their order, as warnings from
the drop and below that from everything else.
-/

set_option autoImplicit false

namespace CephMount

variable {σ : Type}

/-- The code of the request is looked at, and a failure reported by the name of the request alone. -/
def Request.isChecked : Request → Bool
  | release | isMounted => false
  | _ => true

theorem Setting.Asks.isChecked {setting : Setting} {request : Request} (asks : setting.Asks request) :
    request.isChecked = true := by
  cases asks <;> rfl

theorem PathOperation.Asks.isChecked {operation : PathOperation} {request : Request}
    (asks : operation.Asks request) : request.isChecked = true := by
  obtain ⟨path, -, rfl⟩ := asks
  cases operation <;> rfl

/-- What the failure of a call owes that has a name and a code, and is told by these. -/
def failureOf (call : String) (code : Int32) : List Event :=
  if code = 0 then [] else [.callFailed call ⟨code⟩]

theorem Request.owed_of_checked {request : Request} (checked : request.isChecked = true)
    (handle : Handle) (code : Int32) :
    (Entry.called (.request handle request) code).owed .held = failureOf request.name code := by
  have error : (Entry.called (.request handle request) code).error? = ErrorCode.ofCode? code := by
    cases request <;> first | rfl | cases checked
  have reports (error : ErrorCode) :
      request.reports .held handle error = [.callFailed request.name error] := by
    cases request <;> first | rfl | cases checked
  rw [Entry.owed_of_code error, Entry.reports, reports]
  rfl

theorem checkedCode_tells (call : String) (code : Int32) :
    (checkedCode call code).Tells .held (failureOf call code) := by
  by_cases granted : code = 0
  · rw [granted, checkedCode_zero]
    exact .done _
  · rw [failureOf, if_neg granted, checkedCode_of_ne call granted]
    exact .tell (.done _)

namespace Mount

theorem checked_tells (mount : Mount) {request : Request} (checked : request.isChecked = true) :
    (mount.checked request).Tells .held [] := by
  refine .call fun code => ?_
  rw [Request.owed_of_checked checked]
  exact checkedCode_tells _ _

/-! Operations. -/

theorem configure_tells (mount : Mount) (setting : Setting) :
    (mount.configure setting).Tells .held [] := by
  unfold configure
  rcases setting.request_cases with ⟨request, crossed, asks⟩ | ⟨offset, crossed, -⟩
  · rw [crossed]
    refine (mount.checked_tells asks.isChecked).bind fun outcome => ?_
    cases outcome with
    | error error => exact .done _
    | ok =>
      obtain ⟨handle, state⟩ := mount
      cases state with
      | allocated => exact .aside rfl (.done _)
      | _ => exact .done _
  · rw [crossed]
    exact .done _

theorem advance_tells (mount : Mount) {request : Request} (checked : request.isChecked = true)
    (after : MountState) : (mount.advance request after).Tells .held [] := by
  refine (mount.checked_tells checked).bind fun outcome => ?_
  cases outcome with
  | error error => exact .done _
  | ok => exact .aside rfl (.done _)

theorem atPath_tells (mount : Mount) (operation : PathOperation) :
    (mount.atPath operation).Tells .held [] := by
  unfold atPath
  rcases operation.request_cases with ⟨request, crossed, asks⟩ | ⟨offset, crossed, -⟩
  · rw [crossed]
    exact mount.checked_tells (PathOperation.Asks.isChecked asks)
  · rw [crossed]
    exact .done _

/-- A look-up can go on exactly while its buffer is not the largest. -/
theorem readOption_tells (mount : Mount) (key : Terminated) (growths size : Nat)
    (grows : size * 2 ^ growths = 65536) : (mount.readOption key growths size).Tells .held [] := by
  have smaller {growths size : Nat} (grows : size * 2 ^ (growths + 1) = 65536) : size < 65536 := by
    have some : 0 < size := Nat.pos_of_ne_zero (by rintro rfl; simp at grows)
    have more : size * 1 < size * 2 ^ (growths + 1) :=
      (Nat.mul_lt_mul_left some).mpr (Nat.one_lt_two_pow (Nat.succ_ne_zero growths))
    rwa [grows, Nat.mul_one] at more
  have ends {growths size : Nat} (grows : size * 2 ^ growths = 65536) (answer : OptionAnswer)
      (stops : answer.TooLong → growths = 0) :
      (readOption.finish answer).Tells .held
        ((Entry.called (.readOption mount.handle key (List.replicate size 0)) answer).owed .held) := by
    have final : answer.retried (List.replicate size 0) = false := by
      rw [OptionAnswer.retried, List.length_replicate]
      by_cases long : answer.code = Errno.nameTooLong.code
      · rw [stops long, Nat.pow_zero, Nat.mul_one] at grows
        simp [grows]
      · simp [long]
    have checked : (Entry.called (.readOption mount.handle key (List.replicate size 0)) answer).error? =
        ErrorCode.ofCode? answer.code := by
      rw [Entry.error?, final]
      rfl
    rw [Entry.owed_of_code checked]
    refine (checkedCode_tells "conf_get" answer.code).bind fun outcome => ?_
    cases outcome <;> exact .done _
  induction growths generalizing size with
  | zero =>
    unfold readOption
    exact .call fun answer => ends grows answer fun _ => rfl
  | succ growths ih =>
    unfold readOption
    refine .call fun answer => ?_
    change Program.Tells _ _ (if answer.code = _ then _ else _)
    split
    next long =>
      have retried : answer.retried (List.replicate size 0) = true := by
        rw [OptionAnswer.retried, List.length_replicate]
        simp [long, smaller grows]
      rw [Entry.owed_of_none (by rw [Entry.error?, retried]; rfl)]
      refine ih (2 * size) ?_
      rw [← grows, Nat.pow_succ', Nat.mul_comm 2 size, Nat.mul_assoc]
    next fits => exact ends grows answer fun long => absurd long fits

theorem getOption_tells (mount : Mount) (key : String) : (mount.getOption key).Tells .held [] := by
  unfold getOption
  cases Terminated.ofText key with
  | error offset => exact .done _
  | ok name => exact mount.readOption_tells name bufferGrowths firstBuffer rfl

theorem isMounted_tells (mount : Mount) : mount.isMounted.Tells .held [] := by
  refine .call fun code => ?_
  simp only [Program.bind_eq_bind, Program.bind]
  split
  · exact .aside rfl (.done _)
  · exact .done _

/-- What is done with a buffer's content is done when the buffer is back, with the same still owed. -/
theorem takeBuffer_tells {α : Type} {pending : List Event} (part : ReplyPart) (returned : Returned)
    {next : Bytes → Program α} (rest : (next returned.content).Tells .held pending) :
    ((takeBuffer part returned).bind next).Tells .held pending := by
  obtain ⟨buffer, length⟩ := returned
  cases buffer with
  | none => exact rest
  | some buffer => exact .returns fun _ => rest

theorem send_tells (mount : Mount) {target : String} {command : Command}
    (spelled : command.target.Spells target) : (mount.send target command).Tells .held [] := by
  refine .call fun answer => takeBuffer_tells .status answer.status ?_
  refine takeBuffer_tells .output answer.output ?_
  have checked : (Entry.called (.command mount.handle command) answer).error? =
      ErrorCode.ofCode? answer.code := rfl
  rw [Entry.owed_of_code checked, Entry.reports, spelled.text_eq]
  by_cases granted : answer.code = 0
  · simp only [ErrorCode.ofCode?, granted, if_true]
    exact .done _
  · simp only [ErrorCode.ofCode?, granted, if_false]
    exact .tell (.done _)

theorem command_tells (mount : Mount) (line : CommandLine) :
    (mount.command line).Tells .held [] := by
  unfold command
  split
  · exact .done _
  · rcases line.command_cases with ⟨command, crossed, reads⟩ | ⟨offset, crossed, -⟩
    · rw [crossed]
      exact (mount.send_tells reads.target).bind fun _ => .done _
    · rw [crossed]
      exact .done _

theorem perform_tells (mount : Mount) (operation : Operation) :
    (mount.perform operation).Tells .held [] := by
  cases operation with
  | configure setting => exact (mount.configure_tells setting).bind fun _ => .done _
  | mount => exact (mount.advance_tells rfl .mounted).bind fun _ => .done _
  | unmount => exact (mount.advance_tells rfl .unmounted).bind fun _ => .done _
  | getOption key => exact (mount.getOption_tells key).bind fun _ => .done _
  | isMounted => exact mount.isMounted_tells.bind fun _ => .done _
  | sync => exact (mount.checked_tells rfl).bind fun _ => .done _
  | currentDir => exact .call fun _ => .done _
  | path operation => exact (mount.atPath_tells operation).bind fun _ => .done _
  | command line => exact (mount.command_tells line).bind fun _ => .done _

theorem performAll_tells (mount : Mount) (operations : List Operation) :
    (mount.performAll operations).Tells .held [] := by
  induction operations generalizing mount with
  | nil => exact .done _
  | cons operation rest ih =>
    exact (mount.perform_tells operation).bind fun result => (ih result.2).bind fun _ => .done _

/-! Creations, and the end of a mount. -/

/-- What a creation owes for its answer. -/
def allocationFailures (call : String) : Except Int32 Handle → List Event
  | .ok _ => []
  | .error code =>
    [.allocationFailed call code ⟨if code = 0 then Errno.inputOutput.code else code⟩]

theorem allocated_tells (call : String) {success : Handle → Event}
    (aside : ∀ handle, (success handle).tellsFailure = false) (answer : Except Int32 Handle) :
    (allocated call success answer).Tells .held (allocationFailures call answer) := by
  cases answer with
  | ok handle => exact .aside (aside handle) (.done _)
  | error code =>
    rw [allocated, ErrorCode.getD_ofCode?]
    exact .tell (.done _)

theorem create_tells (id : Option String) : (create id).Tells .held [] := by
  unfold create
  cases Terminated.ofOptionalText id with
  | error offset => exact .done _
  | ok name =>
    refine .call fun answer => ?_
    have owed : (Entry.called (.create name) answer).owed .held = allocationFailures "create" answer := by
      cases answer <;> rfl
    rw [owed]
    exact allocated_tells _ (fun _ => rfl) answer

theorem fromCluster_tells (cluster : Nat) : (fromCluster cluster).Tells .held [] := by
  refine .call fun answer => ?_
  have owed : (Entry.called (.createFromCluster cluster) answer).owed .held =
      allocationFailures "create_from_cluster" answer := by
    cases answer <;> rfl
  rw [owed]
  exact allocated_tells _ (fun _ => rfl) answer

theorem check_eq (code : Int32) :
    check code = if code = 0 then .ok () else .error ⟨code⟩ := by
  by_cases granted : code = 0 <;> simp [check, ErrorCode.ofCode?, granted]

theorem drop_tells (mount : Mount) : mount.drop.Tells .dropped [] := by
  have unmounted : mount.dropUnmount.Tells .dropped [] := by
    refine .call fun code => ?_
    change Program.Tells _ _ (mount.reportUnmounted code)
    rw [Entry.owed_of_code rfl, reportUnmounted, check_eq]
    by_cases granted : code = 0
    · rw [if_pos granted, if_pos granted]
      exact .done _
    · rw [if_neg granted, if_neg granted]
      exact .tell (.done _)
  have released : mount.dropRelease.Tells .dropped [] := by
    refine .call fun code => ?_
    change Program.Tells _ _ (mount.reportReleased code)
    rw [Entry.owed_of_code rfl, reportReleased, check_eq]
    by_cases granted : code = 0
    · rw [if_pos granted, if_pos granted]
      exact .aside rfl (.done _)
    · rw [if_neg granted, if_neg granted]
      exact .tell (.done _)
  rw [drop_eq]
  split
  · exact unmounted.bind fun _ => released
  · exact released

end Mount

/-! Whole traces: what is told for the holder, and then for a drop. -/

/-- The trace tells of every failure: of the holder's up to a drop, and then of those of the drop. The
calls of the two parts are such. -/
def Trace.Discloses (parts : List Entry → List Entry → Prop) (entries : List Entry) : Prop :=
  ∃ held dropped, entries = held ++ dropped ∧ Tells .held [] held ∧ Tells .dropped [] dropped ∧
    parts (calls held) (calls dropped)

theorem Trace.Tells.discloses {parts : List Entry → List Entry → Prop} {entries : List Entry}
    (tells : Tells .held [] entries) (alone : parts (calls entries) []) : Discloses parts entries :=
  ⟨entries, [], (List.append_nil entries).symm, tells, .nil, alone⟩

theorem Trace.Discloses.after {parts longer : List Entry → List Entry → Prop} {first rest : List Entry}
    (discloses : Discloses parts rest) (tells : Tells .held [] first)
    (implies : ∀ held dropped, parts held dropped → longer (calls first ++ held) dropped) :
    Discloses longer (first ++ rest) := by
  obtain ⟨held, dropped, rfl, heldTells, droppedTells, ends⟩ := discloses
  refine ⟨first ++ held, dropped, (List.append_assoc ..).symm, tells.append heldTells, droppedTells, ?_⟩
  rw [calls_append]
  exact implies _ _ ends

/-- How the calls of a mount's end are parted: all of them are the drop's, or the drop follows a release
that was refused. -/
def Ending.Parts (mount : Mount) : Ending → List Entry → List Entry → Prop
  | drop, _, dropped => mount.DropCalls dropped
  | release, held, dropped => ∃ early code, held = early ++ [mount.asked .release code] ∧
      if code = 0 then dropped = [] else mount.DropCalls dropped

/-- How the calls are parted when no mount came of a creation: it made no handle, or a drop ended the
mount that it prepared partly. -/
def Creation.FailedParts (held dropped : List Entry) : Prop :=
  Trace.made held = [] ∧ dropped = [] ∨ ∃ partly, Mount.DropCalls partly dropped

/-- A trace that gives a mount is all its holder's, and one that gives an error may end with a drop. -/
def Trace.Begins (parts : List Entry → List Entry → Prop) (entries : List Entry) :
    Outcome Mount → Prop
  | .ok _ => Tells .held [] entries
  | .error _ => Discloses parts entries

theorem Trace.Begins.after {parts longer : List Entry → List Entry → Prop} {first rest : List Entry}
    {outcome : Outcome Mount} (begins : Begins parts rest outcome) (tells : Tells .held [] first)
    (implies : ∀ held dropped, parts held dropped → longer (calls first ++ held) dropped) :
    Begins longer (first ++ rest) outcome := by
  cases outcome with
  | ok mount => exact tells.append begins
  | error error => exact Discloses.after begins tells implies

namespace Mount

variable (answers : Answers σ)

theorem drop_discloses (mount : Mount) (state : σ) :
    mount.drop.Meets (.answering answers) state fun entries _ _ =>
      Trace.Tells .dropped [] entries ∧ mount.DropCalls (Trace.calls entries) :=
  (mount.drop_tells.meets answers state).and (mount.drop_calls answers state)

theorem prepare_discloses (mount : Mount) (settings : List Setting) (state : σ) :
    (mount.prepare settings).Meets (.answering answers) state fun entries outcome _ =>
      Trace.Begins (fun _ dropped => ∃ partly, DropCalls partly dropped) entries outcome := by
  induction settings generalizing mount state with
  | nil => exact Trace.Tells.nil
  | cons setting rest ih =>
    rw [prepare, Program.bind_eq_bind, Program.meets_bind]
    apply ((mount.configure_tells setting).meets answers state).mono
    intro first result between told
    obtain ⟨outcome, configured⟩ := result
    cases outcome with
    | ok => exact (ih configured between).mono fun _ _ _ begins => begins.after told fun _ _ => id
    | error error =>
      refine (Program.meets_bind ..).mpr ((configured.drop_discloses answers between).mono ?_)
      rintro dropped _ _ ⟨tells, calls⟩
      exact ⟨first, dropped, by simp, told, tells, configured, calls⟩

theorem end_discloses (ending : Ending) (mount : Mount) (state : σ) :
    (ending.program mount).Meets (.answering answers) state fun entries _ _ =>
      Trace.Discloses (ending.Parts mount) entries := by
  cases ending with
  | drop =>
    refine (Program.meets_bind ..).mpr ((mount.drop_discloses answers state).mono ?_)
    rintro dropped _ _ ⟨tells, calls⟩
    rw [Program.pure_eq_done, Program.meets_done, List.append_nil]
    exact ⟨[], dropped, rfl, .nil, tells, calls⟩
  | release =>
    rw [Ending.program, release_eq]
    apply (Program.meets_call_answering ..).mpr
    generalize (answers (.request mount.handle .release) state).2 = between
    generalize (answers (.request mount.handle .release) state).1 = code
    change Program.Meets _ (if code = 0 then _ else _) _ _
    have owed : (mount.asked .release code).owed .held =
        if code = 0 then [] else [.releaseRefused mount.handle code, .callFailed "release" ⟨code⟩] :=
      Entry.owed_of_code rfl
    by_cases granted : code = 0
    · rw [if_pos granted] at owed ⊢
      have tells : Trace.Tells .held [] [mount.asked .release code, .reported (.released mount.handle)] :=
        .called (owed ▸ .aside rfl .nil)
      exact tells.discloses ⟨[], code, rfl, by rw [if_pos granted]⟩
    · rw [if_neg granted] at owed ⊢
      simp only [Program.meets_log, Program.meets_bind, Program.meets_done, List.append_nil]
      apply (mount.drop_discloses answers between).mono
      rintro dropped _ _ ⟨tells, calls⟩
      let refused : List Entry := [mount.asked .release code,
        .reported (.releaseRefused mount.handle code), .reported (.callFailed "release" ⟨code⟩)]
      have told : Trace.Tells .held [] refused := .called (owed ▸ .told (.told .nil))
      exact ⟨refused, dropped, rfl, told, tells, [], code, rfl, by rwa [if_neg granted]⟩

end Mount

/-- A creation that only allocates tells of its failure, and drops nothing. -/
theorem Mount.Allocates.begins {entries : List Entry} {outcome : Outcome Mount}
    (allocates : Mount.Allocates entries outcome) (tells : Trace.Tells .held [] entries) :
    Trace.Begins Creation.FailedParts entries outcome := by
  cases outcome with
  | ok mount => exact tells
  | error error =>
    refine Trace.Tells.discloses tells (.inl ⟨?_, rfl⟩)
    rw [Trace.made_calls]
    exact List.filterMap_eq_nil_iff.mpr fun entry member => (allocates entry member).1

theorem Creation.program_discloses (answers : Answers σ) (creation : Creation) (state : σ) :
    creation.program.Meets (.answering answers) state fun entries outcome _ =>
      Trace.Begins FailedParts entries outcome := by
  have created (id : Option String) :=
    ((Mount.create_tells id).meets answers state).and (Mount.create_allocates answers id state)
  have derived (cluster : Nat) :=
    ((Mount.fromCluster_tells cluster).meets answers state).and
      (Mount.fromCluster_allocates answers cluster state)
  cases creation with
  | fresh id => exact (created id).mono fun _ _ _ made => made.2.begins made.1
  | derived cluster => exact (derived cluster).mono fun _ _ _ made => made.2.begins made.1
  | prepared config =>
    rw [program, Mount.fromConfig, Program.bind_eq_bind, Program.meets_bind]
    apply (created config.clientId).mono
    rintro first outcome between ⟨told, allocates⟩
    cases outcome with
    | error error =>
      rw [← List.append_nil first] at told allocates
      exact allocates.begins told
    | ok mount =>
      apply (mount.prepare_discloses answers config.settings between).mono
      exact fun rest outcome _ begins => begins.after told fun _ _ => .inr

/-- How the calls of a life are parted: those of its holder, and those of a drop. -/
def Life.Parts (life : Life) (outcome : Outcome Life.Outcomes) (held dropped : List Entry) : Prop :=
  match outcome with
  | .ok outcomes => life.ending.Parts outcomes.mount held dropped
  | .error _ => Creation.FailedParts held dropped

theorem Ending.Parts.after {ending : Ending} {mount : Mount} {held dropped : List Entry}
    (parts : ending.Parts mount held dropped) (first : List Entry) :
    ending.Parts mount (first ++ held) dropped := by
  cases ending with
  | drop => exact parts
  | release =>
    obtain ⟨early, code, rfl, ends⟩ := parts
    exact ⟨first ++ early, code, (List.append_assoc ..).symm, ends⟩

theorem Life.program_discloses (answers : Answers σ) (life : Life) (state : σ) :
    life.program.Meets (.answering answers) state fun entries outcome _ =>
      Trace.Discloses (life.Parts outcome) entries := by
  rw [program, Program.bind_eq_bind, Program.meets_bind]
  apply (life.creation.program_discloses answers state).mono
  intro first outcome started begins
  cases outcome with
  | error error =>
    rw [← List.append_nil first] at begins
    exact begins
  | ok mount =>
    simp only [Program.bind_eq_bind, Program.meets_bind]
    apply ((mount.performAll_tells life.operations).meets answers started).mono
    rintro during ⟨outcomes, after⟩ between told
    apply (after.end_discloses answers life.ending between).mono
    intro last ended _ discloses
    have used := discloses.after told fun _ _ parts => Ending.Parts.after parts _
    rw [Program.pure_eq_done, Program.meets_done, List.append_nil]
    exact used.after begins fun _ _ parts => Ending.Parts.after parts _

/-- Failures of a drop's calls are warnings. -/
theorem Mount.DropCalls.warns {mount : Mount} {calls : List Entry} (drops : mount.DropCalls calls)
    {entry : Entry} (member : entry ∈ calls) :
    ∀ event ∈ entry.owed .dropped, event.level = .warn := by
  have asked {code : Int32} {request : Request} {event : Event}
      (owed : (mount.asked request code).owed .dropped = if code = 0 then [] else [event])
      (warns : event.level = .warn) : ∀ event ∈ (mount.asked request code).owed .dropped,
        event.level = .warn := by
    rw [owed]
    split
    · exact List.forall_mem_nil _
    · exact List.forall_mem_singleton.mpr warns
  have released (code : Int32) : ∀ event ∈ (mount.asked .release code).owed .dropped,
      event.level = .warn := asked (Entry.owed_of_code rfl) rfl
  unfold DropCalls at drops
  split at drops
  · obtain ⟨first, last, rfl⟩ := drops
    rcases List.mem_cons.mp member with rfl | member
    · exact asked (Entry.owed_of_code rfl) rfl
    · exact List.mem_singleton.mp member ▸ released last
  · obtain ⟨last, rfl⟩ := drops
    exact List.mem_singleton.mp member ▸ released last

/-- A drop, if there is one, makes the last calls of a life. -/
theorem Life.Parts.dropped {life : Life} {outcome : Outcome Life.Outcomes} {held dropped : List Entry}
    (parts : life.Parts outcome held dropped) :
    dropped = [] ∨ ∃ mount, Mount.DropCalls mount dropped := by
  cases outcome with
  | error error => exact parts.imp_left And.right
  | ok outcomes =>
    obtain ⟨creation, operations, ending⟩ := life
    cases ending with
    | drop => exact .inr ⟨_, parts⟩
    | release =>
      obtain ⟨early, code, -, ends⟩ := parts
      split at ends
      · exact .inl ends
      · exact .inr ⟨_, ends⟩

/-- The account of the failures in a trace, with its part before a drop and the drop. -/
structure Trace.Account (held dropped : List Entry) : Prop where
  /-- Each failure is told behind its call and before anything else is asked. -/
  heldTells : Tells .held [] held
  droppedTells : Tells .dropped [] dropped
  /-- What is told is what the calls owe, in their order, and nothing else. -/
  owed : failures (held ++ dropped) =
    held.flatMap (Entry.owed .held) ++ dropped.flatMap (Entry.owed .dropped)
  /-- The error of each call that failed is told once. -/
  errors : (failures (held ++ dropped)).filterMap Event.error? =
    (held ++ dropped).filterMap Entry.error?
  texts : ∀ event ∈ failures (held ++ dropped), ∀ error, event.error? = some error →
    ("err", .text error.message) ∈ event.fields
  /-- Only the bare code of a refused release is a warning. -/
  heldLevels : ∀ event ∈ failures held,
    event.level = if event.error?.isSome then .debug else .warn
  droppedLevels : ∀ event ∈ failures dropped, event.level = .warn

theorem Trace.Tells.account {held dropped : List Entry} (told : Tells .held [] held)
    (tells : Tells .dropped [] dropped)
    (drops : calls dropped = [] ∨ ∃ mount, Mount.DropCalls mount (calls dropped)) :
    Account held dropped := by
  have first := told.failures_eq (List.forall_mem_nil _)
  have last := tells.failures_eq (List.forall_mem_nil _)
  rw [List.nil_append] at first last
  have owed : failures (held ++ dropped) =
      held.flatMap (Entry.owed .held) ++ dropped.flatMap (Entry.owed .dropped) := by
    rw [failures_append, first, last]
  refine ⟨told, tells, owed, ?_, fun event _ error tells => Event.text_mem_fields tells, ?_, ?_⟩
  · rw [owed, List.filterMap_append, owed_errors, owed_errors, List.filterMap_append]
  · intro event member
    rw [first] at member
    obtain ⟨entry, -, owes⟩ := List.mem_flatMap.mp member
    exact Entry.owed_levels event owes
  · intro event member
    rw [last] at member
    obtain ⟨entry, inside, owes⟩ := List.mem_flatMap.mp member
    cases entry with
    | reported other => cases owes
    | called call reply =>
      have called : .called call reply ∈ calls dropped := mem_calls.mpr ⟨inside, rfl⟩
      rcases drops with none | ⟨mount, drops⟩
      · rw [none] at called
        cases called
      · exact drops.warns called event owes

/-- Whatever the boundary answers, the failures that are told in a life are those of its calls, each one
once and in the order of the calls. A look-up that goes on with a larger buffer is no failure, and a
release that is refused is told of with its bare code and then as a failure. The failures of a drop are
warnings, and all others are told below that level. -/
theorem Life.failures_told (answers : Answers σ) (life : Life) (state : σ) :
    ∃ held dropped outcome after,
      life.program.run (.answering answers) state = ⟨.ok outcome, held ++ dropped, after⟩ ∧
        life.Parts outcome (Trace.calls held) (Trace.calls dropped) ∧ Trace.Account held dropped := by
  obtain ⟨entries, outcome, after, ran, held, dropped, rfl, told, tells, parts⟩ :=
    (life.program_discloses answers state).run
  exact ⟨held, dropped, outcome, after, ran, parts, told.account tells parts.dropped⟩

end CephMount
