import CephMount.Proofs.InMemory.Requests
import CephMount.Session

/-! Sessions with no answers arranged in front of the in-memory library.

What a program meets on the library itself it meets there as well, so its run in such a session is
never cut short.
-/

set_option autoImplicit false

namespace CephMount

namespace InMemory.Arranged

def discipline : Discipline Arranged where
  boundary := answer
  allows call state := Library.discipline.allows call state.library

/-- With nothing arranged the library answers, and what it refuses is refused. -/
theorem answer_alone (call : Call) (library : Library) :
    answer call { library } =
      ((Library.answer call library).1, { library := (Library.answer call library).2 }) := by
  cases call with
  | request handle request => cases request <;> rfl
  | freeBuffer part id => cases id <;> rfl
  | _ => rfl

theorem answer_direct {call : Call} {library after : Library} {reply : call.Reply}
    (answered : Library.answer call library = (.ok reply, after)) :
    answer call { library } = (.ok reply, { library := after }) := by
  rw [answer_alone, answered]

end InMemory.Arranged

open InMemory

theorem Program.Meets.direct {α : Type} {program : Program α} {library : Library}
    {post : List Entry → α → Library → Prop}
    (meets : program.Meets Library.discipline library post) :
    program.Meets Arranged.discipline { library } fun entries result state =>
      state = { library := state.library } ∧ post entries result state.library := by
  induction program generalizing library post with
  | done result => exact ⟨rfl, meets⟩
  | log event next ih => exact ih meets
  | call request next ih =>
    obtain ⟨allowed, reply, after, answered, rest⟩ := meets
    exact ⟨allowed, reply, { library := after }, Arranged.answer_direct answered, ih reply rest⟩

theorem Program.run_alone {α : Type} (program : Program α) (library : Library) :
    program.run Arranged.answer { library } =
      let run := program.run Library.answer library
      ⟨run.result, run.entries, { library := run.state }⟩ := by
  induction program generalizing library with
  | done result => rfl
  | log event next ih => rw [Program.run, ih, Program.run]
  | call request next ih =>
    simp only [Program.run, Arranged.answer_alone]
    rcases Library.answer request library with ⟨misuse | reply, after⟩
    · rfl
    · simp only [ih]

/-- A step that reaches the library through a mount, or changes it from outside of its boundary. -/
def Instruction.throughMounts : Instruction → Bool
  | .around _ | .control (.arrange _ _) => false
  | _ => true

namespace Session

/-- Nothing is arranged in front of the library. -/
def Direct (session : Session) : Prop := session.boundary = { library := session.library }

/-- What a program meets on the library is so of the turn that runs it. -/
theorem run_direct {α : Type} {motive : Turn → Prop} {session : Session} {program : Program α}
    {finish : Session → α → Session × Result} (direct : session.Direct)
    (meets : program.Meets Library.discipline session.library fun entries result after =>
      let finished := finish { session with boundary := { library := after } } result
      motive ⟨finished.2, entries, finished.1⟩) :
    motive (session.run program finish) := by
  obtain ⟨entries, result, state, ran, left, holds⟩ := meets.direct.run
  change program.run Arranged.answer _ = _ at ran
  rw [← direct] at ran
  rw [← left] at holds
  simpa only [run, ran] using holds

/-- The turn that runs a program on the library, whether or not it is cut short. -/
theorem run_alone {α : Type} {session : Session} (direct : session.Direct) (program : Program α)
    (finish : Session → α → Session × Result) :
    session.run program finish =
      let run := program.run Library.answer session.library
      let left := { session with boundary := { library := run.state } }
      match run.result with
      | .error misuse => ⟨.misused misuse, run.entries, left⟩
      | .ok value => ⟨(finish left value).2, run.entries, (finish left value).1⟩ := by
  unfold run
  rewrite [direct, program.run_alone]
  rfl

theorem Direct.withLibrary {session : Session} (direct : session.Direct) (library : Library) :
    (session.withLibrary library).Direct := by
  change { session.boundary with library } = ({ library } : Arranged)
  rw [direct]

end Session

end CephMount
