import CephMount.Proofs.InMemory.Invariants
import CephMount.Session

/-! Turns by what they are made up of.

A turn looks for the mount or the handle of its slot, or runs a program, and the end of a session is a
row of turns. What is to be shown of any such turn is shown of the part that is left.
-/

set_option autoImplicit false

namespace CephMount

open InMemory

namespace Session

section

variable {session : Session} {motive : Turn → Prop}

theorem withMount_turn (slot : String) {use : Mount → Turn}
    (vacant : motive (session.quiet .noMount))
    (held : ∀ mount, session.mounts.get? slot = some mount → motive (use mount)) :
    motive (session.withMount slot use) := by
  unfold withMount
  split
  · exact vacant
  next mount found => exact held mount found

theorem withHandle_turn (slot : String) {use : Handle → Turn}
    (unknown : motive (session.quiet .noHandle)) (known : ∀ handle, motive (use handle)) :
    motive (session.withHandle slot use) := by
  unfold withHandle
  split
  · exact unknown
  · exact known _

/-- The end of a session drops one mount after the other, and counts what is left. -/
theorem close_turn (initial : motive (session.quiet (.answer .nothing)))
    (dropped : ∀ turn slot, motive turn → motive (turn.follow fun session => session.vacate slot))
    (counted : ∀ turn, motive turn →
      motive (turn.follow fun session => session.quiet (.totals session.totals))) :
    motive session.close := by
  have all (slots : List String) (turn : Turn) (holds : motive turn) :
      motive (slots.foldl (fun turn slot => turn.follow fun session => session.vacate slot) turn) := by
    induction slots generalizing turn with
    | nil => exact holds
    | cons slot rest ih => exact ih _ (dropped turn slot holds)
  exact counted _ (all session.mounts.keys _ initial)

end

/-- What each call leaves of the library, a turn that runs a program leaves, also one that is cut
short. -/
theorem run_library {α : Type} {start : Session} {program : Program α}
    {finish : Session → α → Session × Result} (invariant : Library → Prop)
    (calls : ∀ call library, invariant library → invariant (Library.answer call library).2)
    (holds : invariant start.library)
    (finished : ∀ session result, (finish session result).1.library = session.library) :
    invariant (start.run program finish).session.library := by
  have left : invariant (program.run Arranged.answer start.boundary).state.library :=
    program.within_any.run_keeps
      (fun call state _ => Arranged.answer_library calls call state) holds
  unfold run
  dsimp only
  split
  · exact left
  · rw [finished]
    exact left

end Session

end CephMount
