import CephMount.Proofs.Session.Steps

/-! Sessions in which no failure says success and nobody sets a flag behind the mounts' backs.

There the tracked states say what the flags say, and a handle is left live without a mount only
through a failure that was laid up for an unmount or a release.
-/

set_option autoImplicit false

namespace CephMount

open InMemory

/-- A failure that the step lays up does not say success. -/
def Instruction.failsHonestly : Instruction → Bool
  | .control (.fail _ code) => code != 0
  | _ => true

def Instruction.setsFlag : Instruction → Bool
  | .setFlag _ => true
  | _ => false

def Injects (steps : List Step) (call : String) : Prop :=
  ∃ step ∈ steps, ∃ code, step.instruction = .control (.fail call code)

namespace Holding

/-- Every mount that is held says what the flag of its handle says. -/
def Agreeing (holding : Holding) : Prop :=
  ∀ slot mount, holding.mounts.get? slot = some mount → Agrees mount holding.library

/-- The handle is live and no mount holds it. -/
def Leaks (holding : Holding) (handle : Handle) : Prop :=
  holding.library.isLive handle = true ∧
    ∀ slot mount, holding.mounts.get? slot = some mount → mount.handle ≠ handle

variable {instruction : Instruction} {before after : Holding} {made : List Handle}

theorem Moves.failures (moves : before.Moves instruction made after) {call : String} {code : Int32}
    (found : after.library.failures.get? call = some code) :
    before.library.failures.get? call = some code ∨ instruction = .control (.fail call code) := by
  cases moves with
  | surrounds records number failures => exact .inl (failures ▸ found)
  | @fails name laid same =>
    change (before.library.failures.insert name laid).get? call = _ at found
    rw [Table.get?_insert] at found
    split at found
    next here =>
      cases found
      exact .inr (here ▸ same)
    · exact .inl found
  | flags set => exact .inl found
  | performs held performs => exact .inl (performs.keeps.spends call code found)
  | ends held ends outlives => exact .inl (ends.spends call code found)
  | creates vacant created => exact .inl (created.spends call code found)
  | undoes created => exact .inl (created.spends call code found)

theorem Moves.failuresFail (moves : before.Moves instruction made after)
    (honest : instruction.failsHonestly = true) (fail : before.library.FailuresFail) :
    after.library.FailuresFail := by
  intro call found
  rcases moves.failures found with earlier | laid
  · exact fail call earlier
  · subst laid
    cases honest

theorem Moves.agreeing (moves : before.Moves instruction made after) (sound : before.Sound)
    (unset : instruction.setsFlag = false) (fail : before.library.FailuresFail)
    (agreeing : before.Agreeing) : after.Agreeing := by
  intro slot mount held
  cases moves with
  | surrounds records number failures =>
    rw [Agrees, Library.flag?, Library.record?, records]
    exact agreeing slot mount held
  | fails laid => exact agreeing slot mount held
  | flags set =>
    subst set
    cases unset
  | @performs own old next after was performs =>
    simp only [Table.get?_insert] at held
    split at held
    · cases held
      exact performs.agrees fail (agreeing own old was)
    next distinct =>
      rw [Agrees, Library.flag?_of_same performs.keeps.others (sound.handle_ne held was distinct)]
      exact agreeing slot mount held
  | @ends own old after was ends outlives =>
    simp only [Table.get?_erase] at held
    split at held
    · cases held
    next distinct =>
      rw [Agrees, Library.flag?_of_same ends.others (sound.handle_ne held was distinct)]
      exact agreeing slot mount held
  | @creates own new entries after vacant created =>
    obtain ⟨creates, lowered, unmounted, -⟩ := created
    simp only [Table.get?_insert] at held
    split at held
    · cases held
      exact lowered.trans (congrArg some unmounted.symm)
    · rw [Agrees, Library.flag?_of_same creates.others (sound.handle_ne_new creates held)]
      exact agreeing slot mount held
  | undoes created =>
    rcases created with ⟨keeps, -⟩ | ⟨handle, creates, -, -⟩
    · -- Any other handle will do to see that this one is untouched.
      have other : mount.handle ≠ ⟨mount.handle.number + 1⟩ := fun same =>
        Nat.succ_ne_self _ (congrArg Handle.number same).symm
      rw [Agrees, Library.flag?_of_same (keeps _).others other]
      exact agreeing slot mount held
    · rw [Agrees, Library.flag?_of_same creates.others (sound.handle_ne_new creates held)]
      exact agreeing slot mount held

/-- A handle that is left live without a mount was so before, or a failure was laid up. -/
theorem Moves.leaks (moves : before.Moves instruction made after) (fail : before.library.FailuresFail)
    (agreeing : before.Agreeing) {handle : Handle} (leaks : after.Leaks handle) :
    before.Leaks handle ∨ before.library.EndMayFail := by
  obtain ⟨alive, unheld⟩ := leaks
  -- A handle that was held is left alone only by a move that ends its mount.
  cases moves with
  | surrounds records number failures =>
    rw [Library.isLive, Library.record?, records] at alive
    exact .inl ⟨alive, unheld⟩
  | fails laid => exact .inl ⟨alive, unheld⟩
  | flags set =>
    rw [Library.isLive_setMountedFlag] at alive
    exact .inl ⟨alive, unheld⟩
  | @performs slot mount next after held performs =>
    have distinct : handle ≠ mount.handle := fun same =>
      unheld slot next (by rw [Table.get?_insert, if_pos rfl]) (performs.handle.trans same.symm)
    refine .inl ⟨Library.isLive_of_same performs.keeps.others distinct ▸ alive, ?_⟩
    intro other another also
    by_cases here : other = slot
    · subst here
      cases held.symm.trans also
      exact distinct.symm
    · exact unheld other another (by rw [Table.get?_insert, if_neg here, also])
  | @ends slot mount after held ends outlives =>
    by_cases same : handle = mount.handle
    · exact .inr (outlives fail (agreeing slot mount held) (same ▸ alive))
    · refine .inl ⟨Library.isLive_of_same ends.others same ▸ alive, ?_⟩
      intro other another also
      by_cases here : other = slot
      · subst here
        cases held.symm.trans also
        exact Ne.symm same
      · exact unheld other another (by rw [Table.get?_erase, if_neg here, also])
  | @creates slot mount entries after vacant created =>
    have distinct : handle ≠ mount.handle := fun same =>
      unheld slot mount (by rw [Table.get?_insert, if_pos rfl]) same.symm
    refine .inl ⟨Library.isLive_of_same created.1.others distinct ▸ alive, ?_⟩
    intro other another also
    have here : other ≠ slot := fun same => by
      subst same
      cases vacant.symm.trans also
    exact unheld other another (by rw [Table.get?_insert, if_neg here, also])
  | undoes created =>
    rcases created with ⟨keeps, -⟩ | ⟨new, creates, -, stays⟩
    · exact .inl ⟨(keeps handle).live ▸ alive, unheld⟩
    · by_cases same : handle = new
      · exact .inr (.inr (stays (same ▸ alive)))
      · exact .inl ⟨Library.isLive_of_same creates.others same ▸ alive, unheld⟩

/-- What holds along a run without set flags, each of whose failures was laid up by one of `steps`. -/
structure Accounted (steps : List Step) (holding : Holding) : Prop where
  failuresFail : holding.library.FailuresFail
  agreeing : holding.Agreeing
  failures : ∀ call code, holding.library.failures.get? call = some code → Injects steps call
  leaks : ∀ handle, holding.Leaks handle → Injects steps "unmount" ∨ Injects steps "release"

theorem Accounted.move {steps : List Step} (accounted : Accounted steps before) (sound : before.Sound)
    {step : Step} (member : step ∈ steps) (honest : step.instruction.failsHonestly = true)
    (unset : step.instruction.setsFlag = false) (moves : before.Moves step.instruction made after) :
    Accounted steps after where
  failuresFail := moves.failuresFail honest accounted.failuresFail
  agreeing := moves.agreeing sound unset accounted.failuresFail accounted.agreeing
  failures call code found := by
    rcases moves.failures found with earlier | laid
    · exact accounted.failures call code earlier
    · exact ⟨step, member, code, laid⟩
  leaks handle leaks := by
    have laidUp {call : String} (pending : (before.library.failures.get? call).isSome) :
        Injects steps call := by
      obtain ⟨code, found⟩ := Option.isSome_iff_exists.mp pending
      exact accounted.failures call code found
    rcases moves.leaks accounted.failuresFail accounted.agreeing leaks with earlier | mayFail
    · exact accounted.leaks handle earlier
    · exact mayFail.imp laidUp laidUp

end Holding

namespace Session

variable {steps : List Step}

theorem after_failuresFail (through : ∀ step ∈ steps, step.instruction.throughMounts = true)
    (honest : ∀ step ∈ steps, step.instruction.failsHonestly = true) :
    (({} : Session).after steps).library.FailuresFail :=
  (after_keeps (fun _ holding => holding.library.FailuresFail) [] start_direct start_sound
    through (fun _ found => nomatch found)
    fun step member _ _ _ _ _ moves fail => moves.failuresFail (honest step member) fail).2.2

theorem after_accounted (through : ∀ step ∈ steps, step.instruction.throughMounts = true)
    (honest : ∀ step ∈ steps, step.instruction.failsHonestly = true)
    (unset : ∀ step ∈ steps, step.instruction.setsFlag = false) :
    (({} : Session).after steps).holding.Accounted steps :=
  (after_keeps (fun _ holding => holding.Accounted steps) [] start_direct start_sound
    through
    ⟨fun _ found => (nomatch found), fun _ _ held => (nomatch held), fun _ _ found => (nomatch found),
      fun _ leaks => (nomatch leaks.1)⟩
    fun step member _ _ _ _ sound moves accounted =>
      accounted.move sound member (honest step member) (unset step member) moves).2.2

end Session

end CephMount
