import CephMount.Event

/-! Programs over the boundary: trees of calls that go on with the answer of each, and of events.

A program is run against a boundary, which answers from a state of its own. What was called and
reported is kept in order. A boundary may also refuse a call as misuse; then the run ends there, with
the state that the refused call left.
-/

set_option autoImplicit false

namespace CephMount

variable {σ α β : Type}

inductive Program (α : Type) where
  | done (result : α)
  | log (event : Event) (next : Program α)
  | call (call : Call) (next : call.Reply → Program α)

namespace Program

def bind (program : Program α) (next : α → Program β) : Program β :=
  match program with
  | done result => next result
  | log event rest => log event (rest.bind next)
  | call request rest => call request fun reply => (rest reply).bind next

instance : Monad Program where
  pure := done
  bind := bind

@[simp] theorem pure_eq_done (value : α) : (pure value : Program α) = done value := rfl

@[simp] theorem bind_eq_bind (program : Program α) (next : α → Program β) :
    (program >>= next) = program.bind next := rfl

theorem bind_assoc {γ : Type} (program : Program α) (first : α → Program β)
    (second : β → Program γ) :
    (program.bind first).bind second = program.bind fun value => (first value).bind second := by
  induction program with
  | done result => rfl
  | log event rest ih => simp only [bind, ih]
  | call request rest ih => simp only [bind, ih]

/-- Make one call. -/
def perform (request : Call) : Program request.Reply := call request done

/-- Report one event. -/
def report (event : Event) : Program Unit := log event (done ())

end Program

/-- A use of the library that it does not allow. -/
inductive Misuse where
  | usedAfterRelease (handle : Handle)
  | mountedElsewhere
  | unknownBuffer
  deriving DecidableEq, Repr

def Misuse.message : Misuse → String
  | .usedAfterRelease handle => handle.label ++ " used after release"
  | .mountedElsewhere => "only root mounts are issued"
  | .unknownBuffer => "buffer freed twice or never allocated"

/-- Whatever answers calls. -/
def Boundary (σ : Type) : Type := (call : Call) → σ → Except Misuse call.Reply × σ

/-- One line of a run. A refused call leaves none. -/
inductive Entry where
  | called (call : Call) (reply : call.Reply)
  | reported (event : Event)

structure Run (σ α : Type) where
  result : Except Misuse α
  entries : List Entry
  state : σ

/-- Go on from a run that gave a result. -/
def Run.follow (run : Run σ α) (next : α → σ → Run σ β) : Run σ β :=
  match run.result with
  | .error misuse => ⟨.error misuse, run.entries, run.state⟩
  | .ok result =>
    let rest := next result run.state
    { rest with entries := run.entries ++ rest.entries }

def Program.run (boundary : Boundary σ) : Program α → σ → Run σ α
  | done result, state => ⟨.ok result, [], state⟩
  | log event next, state =>
    let rest := next.run boundary state
    { rest with entries := .reported event :: rest.entries }
  | call request next, state =>
    match boundary request state with
    | (.error misuse, state) => ⟨.error misuse, [], state⟩
    | (.ok reply, state) =>
      let rest := (next reply).run boundary state
      { rest with entries := .called request reply :: rest.entries }

theorem Program.run_bind (boundary : Boundary σ) (program : Program α) (next : α → Program β)
    (state : σ) :
    (program.bind next).run boundary state =
      (program.run boundary state).follow fun result => (next result).run boundary := by
  induction program generalizing state with
  | done result => simp [bind, run, Run.follow]
  | log event rest ih =>
    simp only [bind, run, ih, Run.follow]
    split <;> simp
  | call request rest ih =>
    simp only [bind, run]
    split
    · rfl
    · simp only [ih, Run.follow]
      split <;> simp

end CephMount
