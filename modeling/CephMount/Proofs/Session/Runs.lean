import CephMount.Proofs.Mount.Course
import CephMount.Proofs.Session.Buffers

/-! Steps by the programs that they run on the library.

Nothing is arranged in front of the library here. What each program that a step may run does to the
library, and what composes, the step does, also when a program is cut short by a call that is refused.
-/

set_option autoImplicit false

namespace CephMount

open InMemory

/-- The programs that a step runs, some of them or all. -/
inductive Instruction.Runs : Instruction → {α : Type} → Program α → Prop where
  | around {handle : Handle} {request : Request} :
      Runs (.around request) (Program.perform (.request handle request))
  | vacates {source : Source} {mount : Mount} : Runs (.create source) mount.drop
  | creates {source : Source} {creation : Creation} : Runs (.create source) creation.program
  | operates {mount : Mount} {operation : Operation} :
      Runs (.operate operation) (mount.perform operation)
  | releases {mount : Mount} : Runs .release mount.release
  | drops {mount : Mount} : Runs .drop mount.drop

/-- The step changes the library from outside of its boundary. -/
def Instruction.isOutside : Instruction → Bool
  | .control _ | .setFlag _ => true
  | _ => false

/-- An operation that is one request is granted with the code of success alone. -/
theorem Mount.granted_iff {mount left : Mount} {operation : Operation} {outcome : Outcome Answer}
    {code : Int32} (concluded : (outcome, left) = mount.concluded operation code) :
    Session.resultOf outcome = .answer .nothing ↔ code = 0 := by
  unfold Mount.concluded at concluded
  split at concluded
  next zero =>
    cases concluded
    exact iff_of_true rfl zero
  next failed =>
    cases concluded
    exact iff_of_false (fun granted => by cases granted) failed

/-- Between two libraries, with what is called and reported on the way from the one to the other. -/
structure InMemory.Library.Composes (relates : Library → List Entry → Library → Prop) : Prop where
  refl : ∀ library, relates library [] library
  trans : ∀ first entries second more third,
    relates first entries second → relates second more third → relates first (entries ++ more) third

namespace Session

variable {relates : Library → List Entry → Library → Prop} {session : Session}

/-- The turn does to the library what the relation says. -/
def Relates (relates : Library → List Entry → Library → Prop) (session : Session) (turn : Turn) : Prop :=
  relates session.library turn.entries turn.session.library

theorem run_relates {α : Type} {start : Session} {program : Program α}
    {finish : Session → α → Session × Result} (direct : start.Direct)
    (same : start.library = session.library)
    (finished : ∀ after result, (finish after result).1.library = after.library)
    (runs : ∀ library, let run := program.run Library.answer library
      relates library run.entries run.state) :
    session.Relates relates (start.run program finish) := by
  have ran := runs start.library
  rw [run_alone direct]
  unfold Relates
  rw [← same]
  generalize program.run Library.answer start.library = run at ran ⊢
  obtain ⟨result, entries, after⟩ := run
  cases result with
  | error misuse => exact ran
  | ok value =>
    change relates start.library entries (finish _ value).1.library
    rw [finished]
    exact ran

section

variable (composes : Library.Composes relates)
include composes

theorem vacate_relates (direct : session.Direct) (slot : String)
    (dropped : ∀ mount library, let run := (Mount.drop mount).run Library.answer library
      relates library run.entries run.state) :
    session.Relates relates (session.vacate slot) := by
  unfold vacate
  split
  · exact composes.refl session.library
  next mount held => exact run_relates direct rfl (fun _ _ => rfl) (dropped mount)

theorem make_relates (direct : session.Direct) (slot : String) (source : Source)
    (created : ∀ creation library, let run := (Creation.program creation).run Library.answer library
      relates library run.entries run.state) :
    session.Relates relates (session.make slot source) := by
  unfold make
  split
  · exact composes.refl session.library
  next creation accepted =>
    refine run_relates direct rfl (fun after outcome => ?_) (created creation)
    cases outcome <;> rfl

/-- What the programs of a step do to the library, the step does. -/
theorem perform_relates (direct : session.Direct) (slot : String) {instruction : Instruction}
    (inside : instruction.isOutside = false)
    (runs : ∀ {α : Type} {program : Program α}, instruction.Runs program → ∀ library,
      let run := program.run Library.answer library
      relates library run.entries run.state) :
    session.Relates relates (session.perform slot instruction) := by
  have idle (result : Result) : session.Relates relates (session.quiet result) :=
    composes.refl session.library
  cases instruction with
  | control control | setFlag mounted => cases inside
  | connect cluster => exact composes.refl session.library
  | totals | commands => exact idle _
  | handle | attributes path => exact withHandle_turn slot (idle _) fun _ => idle _
  | describe | liveHandles => exact withMount_turn slot (idle _) fun _ _ => idle _
  | around request =>
    exact withHandle_turn slot (idle _) fun _ => run_relates direct rfl (fun _ _ => rfl) (runs .around)
  | create source =>
    have vacated := vacate_relates composes direct slot fun _ => runs .vacates
    have alone := (vacate_balances direct slot).direct
    exact composes.trans _ _ _ _ _ vacated
      (make_relates composes alone slot source fun _ => runs .creates)
  | operate operation =>
    exact withMount_turn slot (idle _) fun _ _ => run_relates direct rfl (fun _ _ => rfl) (runs .operates)
  | release =>
    exact withMount_turn slot (idle _) fun _ _ => run_relates direct rfl (fun _ _ => rfl) (runs .releases)
  | drop =>
    exact withMount_turn slot (idle _) fun _ _ =>
      vacate_relates composes direct slot fun _ => runs .drops

end

/-- What each call of the library keeps, answered or refused, a step keeps that changes nothing from
outside. -/
theorem perform_keeps {invariant : Library → Prop}
    (calls : ∀ call library, invariant library → invariant (Library.answer call library).2)
    (direct : session.Direct) (slot : String) {instruction : Instruction}
    (inside : instruction.isOutside = false) (holds : invariant session.library) :
    invariant (session.perform slot instruction).session.library := by
  have composes : Library.Composes fun before _ after => invariant before → invariant after :=
    ⟨fun _ => id, fun _ _ _ _ _ left right => right ∘ left⟩
  refine perform_relates composes direct slot inside (fun {_ program} _ library initial => ?_) holds
  exact program.within_any.run_keeps (fun call state _ => calls call state) initial

theorem Direct.withLibrary_eq (direct : session.Direct) (library : Library) :
    session.withLibrary library = { session with boundary := { library } } := by
  rw [Session.withLibrary, direct]

/-- All that can become of an operation in a session: there is no mount for it, a call of it is
refused, or it gives its outcome and leaves its mount in the slot. -/
inductive Operates (session : Session) (slot : String) (operation : Operation) : Turn → Prop where
  | vacant : session.mounts.get? slot = none → Operates session slot operation (session.quiet .noMount)
  | misused {mount : Mount} {misuse : Misuse} {entries : List Entry} {after : Library} :
      session.mounts.get? slot = some mount →
      (mount.perform operation).run Library.answer session.library = ⟨.error misuse, entries, after⟩ →
      Operates session slot operation ⟨.misused misuse, entries, session.withLibrary after⟩
  | gives {mount left : Mount} {outcome : Outcome Answer} {entries : List Entry} {after : Library} :
      session.mounts.get? slot = some mount →
      (mount.perform operation).run Library.answer session.library =
        ⟨.ok (outcome, left), entries, after⟩ →
      Operates session slot operation ⟨resultOf outcome, entries,
        { session.withLibrary after with mounts := session.mounts.insert slot left }⟩

theorem operates (direct : session.Direct) (slot : String) (operation : Operation) :
    session.Operates slot operation (session.perform slot (.operate operation)) := by
  rw [perform, withMount]
  split
  next vacant => exact .vacant vacant
  next mount held =>
    rw [run_alone direct]
    cases ran : (mount.perform operation).run Library.answer session.library with
    | mk result entries after =>
      cases result with
      | error misuse =>
        have misused : session.Operates slot operation _ := .misused held ran
        rwa [direct.withLibrary_eq] at misused
      | ok given =>
        have gives : session.Operates slot operation _ := .gives held ran
        rwa [direct.withLibrary_eq] at gives

/-- What holds of no steps, and of a step and those behind it if it holds of those from where the step
leads, holds of all steps that leave the answers to the library. -/
theorem unarranged_induction {motive : Session → List Step → Prop} {steps : List Step}
    (nil : ∀ session, motive session [])
    (cons : ∀ session first rest, session.Direct → first.instruction.unarranged = true →
      motive (session.step first).2 rest → motive session (first :: rest))
    (direct : session.Direct) (unarranged : ∀ step ∈ steps, step.instruction.unarranged = true) :
    motive session steps := by
  induction steps generalizing session with
  | nil => exact nil session
  | cons first rest ih =>
    have own := unarranged first List.mem_cons_self
    have alone := (perform_balances direct first.slot own).direct
    exact cons session first rest direct own
      (ih alone fun step member => unarranged step (List.mem_cons_of_mem first member))

/-- An operation on a mount that is held gives what its run on the library comes to. -/
theorem operate_of_run (direct : session.Direct) {slot : String} {operation : Operation}
    {mount left : Mount} {outcome : Outcome Answer} {entries : List Entry} {after : Library}
    (held : session.mounts.get? slot = some mount)
    (ran : (mount.perform operation).run Library.answer session.library =
      ⟨.ok (outcome, left), entries, after⟩) :
    session.perform slot (.operate operation) = ⟨resultOf outcome, entries,
      { session.withLibrary after with mounts := session.mounts.insert slot left }⟩ := by
  have operates := session.operates direct slot operation
  generalize session.perform slot (.operate operation) = turn at operates ⊢
  cases operates with
  | vacant vacant => cases held.symm.trans vacant
  | misused also refused =>
    cases held.symm.trans also
    cases ran.symm.trans refused
  | gives also gave =>
    cases held.symm.trans also
    cases ran.symm.trans gave
    rfl

end Session

end CephMount
