import CephMount.Proofs.Life
import CephMount.Proofs.Mount.Lookups

/-! How the failures of the library are told, over a boundary that may answer anything.

A call that fails owes events, which follow it before anything else is asked, and nothing else is told of
as a failure. The drop of a mount tells its failures in another way than its holder's calls do.
-/

set_option autoImplicit false

namespace CephMount

variable {σ α β : Type}

/-! Failures, as calls answer them and as events tell them. -/

/-- Whose calls they are: those of the holder of a mount, or those of the drop that may end it. -/
inductive Phase where
  | held
  | dropped
  deriving DecidableEq, Repr

/-- The error that an event reports. -/
def Event.error? : Event → Option ErrorCode
  | allocationFailed _ _ error | callFailed _ error | commandFailed _ error _
  | droppedUnmountFailed _ error | droppedReleaseFailed _ error => some error
  | _ => none

/-- The event tells of a failure. Of a release that is refused, the bare code is told before the error. -/
def Event.tellsFailure : Event → Bool
  | releaseRefused .. => true
  | event => event.error?.isSome

theorem Event.text_mem_fields {event : Event} {error : ErrorCode} (tells : event.error? = some error) :
    ("err", .text error.message) ∈ event.fields := by
  cases event <;> cases tells <;> simp [fields]

/-- The look-up goes on with a larger buffer. -/
def OptionAnswer.retried (answer : OptionAnswer) (buffer : Bytes) : Bool :=
  answer.code == Errno.nameTooLong.code && decide (buffer.length < 65536)

/-- The error of a call that failed for good. The library's flag is no code, and a creation that fails
with the code of success fails with another error. -/
def Entry.error? : Entry → Option ErrorCode
  | called (.create _) (.error code) | called (.createFromCluster _) (.error code) =>
    some ⟨if code = 0 then Errno.inputOutput.code else code⟩
  | called (.request _ .isMounted) _ => none
  | called (.request _ _) code => ErrorCode.ofCode? code
  | called (.readOption _ _ buffer) answer =>
    if answer.retried buffer then none else ErrorCode.ofCode? answer.code
  | called (.command _ _) answer => ErrorCode.ofCode? answer.code
  | _ => none

/-- How a request that failed is told. -/
def Request.reports (phase : Phase) (handle : Handle) (error : ErrorCode) : Request → List Event
  | unmount => match phase with
    | .held => [.callFailed "unmount" error]
    | .dropped => [.droppedUnmountFailed handle error]
  | release => match phase with
    | .held => [.releaseRefused handle error.code, .callFailed "release" error]
    | .dropped => [.droppedReleaseFailed handle error]
  | request => [.callFailed request.name error]

/-- How a call that failed is told. -/
def Entry.reports (phase : Phase) (error : ErrorCode) : Entry → List Event
  | called (.create _) (.error code) => [.allocationFailed "create" code error]
  | called (.createFromCluster _) (.error code) => [.allocationFailed "create_from_cluster" code error]
  | called (.request handle request) _ => request.reports phase handle error
  | called (.readOption _ _ _) _ => [.callFailed "conf_get" error]
  | called (.command _ command) answer =>
    [.commandFailed command.target.text error (Utf8.lossy answer.status.content)]
  | _ => []

/-- The events that an answered call owes. -/
def Entry.owed (phase : Phase) (entry : Entry) : List Event :=
  match entry.error? with
  | none => []
  | some error => entry.reports phase error

theorem Entry.owed_of_none {phase : Phase} {entry : Entry} (none : entry.error? = none) :
    entry.owed phase = [] := by
  rw [owed, none]

/-- A call whose code is checked owes something exactly if the code is not that of success. -/
theorem Entry.owed_of_code {phase : Phase} {entry : Entry} {code : Int32}
    (checked : entry.error? = ErrorCode.ofCode? code) :
    entry.owed phase = if code = 0 then [] else entry.reports phase ⟨code⟩ := by
  rw [owed, checked, ErrorCode.ofCode?]
  by_cases granted : code = 0
  · rw [if_pos granted, if_pos granted]
  · rw [if_neg granted, if_neg granted]

/-- The events tell of one failure. The holder's failures are told below the level of warnings, except for
the bare code. -/
structure Event.TellOnce (phase : Phase) (error : ErrorCode) (events : List Event) : Prop where
  errors : events.filterMap Event.error? = [error]
  failures : ∀ event ∈ events, event.tellsFailure = true
  levels : phase = .held → ∀ event ∈ events,
    event.level = if event.error?.isSome then .debug else .warn

theorem Event.tellOnce_of_told {phase : Phase} {error : ErrorCode} {event : Event}
    (told : event.error? = some error) (level : phase = .held → event.level = .debug) :
    TellOnce phase error [event] where
  errors := by rw [List.filterMap_cons_some told, List.filterMap_nil]
  failures := by
    have tells : event.tellsFailure = true := by cases event <;> first | rfl | cases told
    exact List.forall_mem_singleton.mpr tells
  levels held := List.forall_mem_singleton.mpr (by rw [level held, told]; rfl)

theorem Request.reports_tellOnce (phase : Phase) (handle : Handle) (error : ErrorCode)
    (request : Request) : Event.TellOnce phase error (request.reports phase handle error) := by
  cases request with
  | unmount =>
    cases phase with
    | held => exact Event.tellOnce_of_told rfl fun _ => rfl
    | dropped => exact Event.tellOnce_of_told rfl nofun
  | release =>
    cases phase with
    | held =>
      have told : Event.TellOnce .held error [.callFailed "release" error] :=
        Event.tellOnce_of_told rfl fun _ => rfl
      exact ⟨told.errors, List.forall_mem_cons.mpr ⟨rfl, told.failures⟩,
        fun held => List.forall_mem_cons.mpr ⟨rfl, told.levels held⟩⟩
    | dropped => exact Event.tellOnce_of_told rfl nofun
  | _ => exact Event.tellOnce_of_told rfl fun _ => rfl

theorem Entry.reports_tellOnce {phase : Phase} {entry : Entry} {error : ErrorCode}
    (failed : entry.error? = some error) : Event.TellOnce phase error (entry.reports phase error) := by
  cases entry with
  | reported event => cases failed
  | called call reply =>
    cases call with
    | create id | createFromCluster cluster =>
      cases reply with
      | ok handle => cases failed
      | error code => exact Event.tellOnce_of_told rfl fun _ => rfl
    | request handle request => exact request.reports_tellOnce phase handle error
    | readOption handle key buffer | command handle command =>
      exact Event.tellOnce_of_told rfl fun _ => rfl
    | currentDir handle | freeBuffer part id | version => cases failed

/-- What a call owes tells its error once, if it has one, and nothing if it has none. -/
theorem Entry.owed_errors (phase : Phase) (entry : Entry) :
    (entry.owed phase).filterMap Event.error? = entry.error?.toList := by
  unfold owed
  cases failed : entry.error? with
  | none => rfl
  | some error => exact (reports_tellOnce failed).errors

theorem Entry.owed_failures {phase : Phase} {entry : Entry} :
    ∀ event ∈ entry.owed phase, event.tellsFailure = true := by
  unfold owed
  cases failed : entry.error? with
  | none => exact List.forall_mem_nil _
  | some error => exact (reports_tellOnce failed).failures

theorem Entry.owed_levels {entry : Entry} :
    ∀ event ∈ entry.owed .held, event.level = if event.error?.isSome then .debug else .warn := by
  unfold owed
  cases failed : entry.error? with
  | none => exact List.forall_mem_nil _
  | some error => exact (reports_tellOnce failed).levels rfl

/-! Traces that tell of every failure. -/

/-- Read from left to right, with the events that are still owed: a call that fails owes its events, and
these follow before any other call, except for those that hand buffers back. No other event tells of a
failure. -/
inductive Trace.Tells (phase : Phase) : List Event → List Entry → Prop where
  | nil : Tells phase [] []
  | called {call : Call} {reply : call.Reply} {rest : List Entry} :
      Tells phase ((Entry.called call reply).owed phase) rest →
      Tells phase [] (.called call reply :: rest)
  | returned {part : ReplyPart} {id : BufferId} {reply : Unit} {pending : List Event} {rest : List Entry} :
      Tells phase pending rest → Tells phase pending (.called (.freeBuffer part id) reply :: rest)
  | told {event : Event} {pending : List Event} {rest : List Entry} : Tells phase pending rest →
      Tells phase (event :: pending) (.reported event :: rest)
  | aside {event : Event} {rest : List Entry} : event.tellsFailure = false → Tells phase [] rest →
      Tells phase [] (.reported event :: rest)

/-- The event of an entry, if it tells of a failure. -/
def Entry.failure? : Entry → Option Event
  | reported event => if event.tellsFailure then some event else none
  | called _ _ => none

namespace Trace

/-- The events that tell of failures. -/
def failures (entries : List Entry) : List Event := entries.filterMap Entry.failure?

theorem failures_append (first rest : List Entry) :
    failures (first ++ rest) = failures first ++ failures rest := List.filterMap_append

variable {phase : Phase} {pending : List Event} {first rest entries : List Entry}

theorem Tells.append (left : Tells phase pending first) (right : Tells phase [] rest) :
    Tells phase pending (first ++ rest) := by
  induction left with
  | nil => exact right
  | called _ ih => exact .called ih
  | returned _ ih => exact .returned ih
  | told _ ih => exact .told ih
  | aside idle _ ih => exact .aside idle ih

/-- The failures that are told are what the calls owe, in the order of the calls. -/
theorem Tells.failures_eq (tells : Tells phase pending entries)
    (pendingTell : ∀ event ∈ pending, event.tellsFailure = true) :
    failures entries = pending ++ entries.flatMap (Entry.owed phase) := by
  induction tells with
  | nil => rfl
  | called _ ih => exact ih Entry.owed_failures
  | returned _ ih => exact ih pendingTell
  | @told event pending rest _ ih =>
    obtain ⟨told, later⟩ := List.forall_mem_cons.mp pendingTell
    have first : (Entry.reported event).failure? = some event := if_pos told
    rw [failures, List.filterMap_cons_some first]
    exact congrArg (List.cons event) (ih later)
  | @aside event rest idle _ ih =>
    have first : (Entry.reported event).failure? = none := if_neg (by rw [idle]; decide)
    rw [failures, List.filterMap_cons_none first]
    exact ih pendingTell

/-- The errors that are told are those of the calls that failed. -/
theorem owed_errors (phase : Phase) (entries : List Entry) :
    (entries.flatMap (Entry.owed phase)).filterMap Event.error? = entries.filterMap Entry.error? := by
  induction entries with
  | nil => rfl
  | cons entry rest ih =>
    rw [List.flatMap_cons, List.filterMap_append, entry.owed_errors, ih]
    cases failed : entry.error? <;> simp [failed]

end Trace

/-! Programs that tell of every failure. -/

/-- Whatever is answered, the program tells of every failure of its calls, and first of what is owed
already. -/
inductive Program.Tells (phase : Phase) : List Event → Program α → Prop where
  | done (result : α) : Tells phase [] (.done result)
  | call {request : Call} {next : request.Reply → Program α} :
      (∀ reply, Tells phase ((Entry.called request reply).owed phase) (next reply)) →
      Tells phase [] (.call request next)
  | returns {part : ReplyPart} {id : BufferId} {next : Unit → Program α} {pending : List Event} :
      (∀ reply, Tells phase pending (next reply)) →
      Tells phase pending (.call (.freeBuffer part id) next)
  | tell {event : Event} {next : Program α} {pending : List Event} : Tells phase pending next →
      Tells phase (event :: pending) (.log event next)
  | aside {event : Event} {next : Program α} : event.tellsFailure = false → Tells phase [] next →
      Tells phase [] (.log event next)

namespace Program

variable {phase : Phase} {pending : List Event}

theorem Tells.bind {program : Program α} {next : α → Program β} (first : program.Tells phase pending)
    (rest : ∀ result, (next result).Tells phase []) : (program.bind next).Tells phase pending := by
  induction first with
  | done result => exact rest result
  | call _ ih => exact .call ih
  | returns _ ih => exact .returns ih
  | tell _ ih => exact .tell ih
  | aside idle _ ih => exact .aside idle ih

theorem Tells.meets {program : Program α} (tells : program.Tells phase pending)
    (answers : Answers σ) (state : σ) :
    program.Meets (.answering answers) state fun entries _ _ => Trace.Tells phase pending entries := by
  induction tells generalizing state with
  | done result => exact .nil
  | call _ ih =>
    refine (meets_call_answering ..).mpr ((ih _ _).mono ?_)
    exact fun entries _ _ rest => .called rest
  | returns _ ih =>
    refine (meets_call_answering ..).mpr ((ih _ _).mono ?_)
    exact fun entries _ _ rest => .returned rest
  | tell _ ih => exact (ih state).mono fun entries _ _ rest => .told rest
  | aside idle _ ih => exact (ih state).mono fun entries _ _ rest => .aside idle rest

end Program

end CephMount
