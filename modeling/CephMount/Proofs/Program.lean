import CephMount.Program

/-! What a program does over a boundary, said without running it.

A discipline is a boundary together with the calls that are in order in each of its states. That a
program meets it says that along the whole run every call is in order where it is made, none is
refused, and what the run leaves is as stated. One rule for each constructor and one for sequencing
take the place of unfolding runs.
-/

set_option autoImplicit false

namespace CephMount

variable {σ α β : Type}

/-- A boundary, and which calls are in order in which of its states. -/
structure Discipline (σ : Type) where
  boundary : Boundary σ
  allows : Call → σ → Prop

/-- Whatever answers every call, and refuses none. -/
def Answers (σ : Type) : Type := (call : Call) → σ → call.Reply × σ

def Boundary.answering (answers : Answers σ) : Boundary σ := fun call state =>
  (.ok (answers call state).1, (answers call state).2)

def Discipline.answering (answers : Answers σ) : Discipline σ := ⟨.answering answers, fun _ _ => True⟩

namespace Program

/-- From `state` on, every call is in order where it is made, none is refused, and the entries, the
result and the state at the end are as `post` says. -/
def Meets (discipline : Discipline σ) :
    Program α → σ → (List Entry → α → σ → Prop) → Prop
  | done result, state, post => post [] result state
  | log event next, state, post =>
    next.Meets discipline state fun entries => post (.reported event :: entries)
  | call request next, state, post =>
    discipline.allows request state ∧
      ∃ reply after, discipline.boundary request state = (.ok reply, after) ∧
        (next reply).Meets discipline after fun entries => post (.called request reply :: entries)

variable {discipline : Discipline σ}

@[simp] theorem meets_done (result : α) (state : σ) (post : List Entry → α → σ → Prop) :
    (done result).Meets discipline state post ↔ post [] result state := Iff.rfl

@[simp] theorem meets_log (event : Event) (next : Program α) (state : σ)
    (post : List Entry → α → σ → Prop) :
    (log event next).Meets discipline state post ↔
      next.Meets discipline state fun entries => post (.reported event :: entries) := Iff.rfl

theorem meets_call (request : Call) (next : request.Reply → Program α) (state : σ)
    (post : List Entry → α → σ → Prop) :
    (call request next).Meets discipline state post ↔
      discipline.allows request state ∧
        ∃ reply after, discipline.boundary request state = (.ok reply, after) ∧
          (next reply).Meets discipline after
            fun entries => post (.called request reply :: entries) := Iff.rfl

/-- Where no call is refused, the answer alone decides how the program goes on. -/
@[simp] theorem meets_call_answering (answers : Answers σ) (request : Call)
    (next : request.Reply → Program α) (state : σ) (post : List Entry → α → σ → Prop) :
    (call request next).Meets (.answering answers) state post ↔
      (next (answers request state).1).Meets (.answering answers) (answers request state).2
        fun entries => post (.called request (answers request state).1 :: entries) := by
  constructor
  · rintro ⟨-, reply, after, answered, rest⟩
    cases answered
    exact rest
  · intro rest
    exact ⟨trivial, _, _, rfl, rest⟩

theorem Meets.mono {program : Program α} {state : σ} {post wider : List Entry → α → σ → Prop}
    (meets : program.Meets discipline state post)
    (implies : ∀ entries result after, post entries result after → wider entries result after) :
    program.Meets discipline state wider := by
  induction program generalizing state post wider with
  | done result => exact implies _ _ _ meets
  | log event next ih => exact ih meets fun _ _ _ => implies _ _ _
  | call request next ih =>
    obtain ⟨allowed, reply, after, answered, rest⟩ := meets
    exact ⟨allowed, reply, after, answered, ih reply rest fun _ _ _ => implies _ _ _⟩

/-- A run is one and the same, whatever is said of it. -/
theorem Meets.and {program : Program α} {state : σ} {left right : List Entry → α → σ → Prop}
    (first : program.Meets discipline state left) (second : program.Meets discipline state right) :
    program.Meets discipline state fun entries result after =>
      left entries result after ∧ right entries result after := by
  induction program generalizing state left right with
  | done result => exact ⟨first, second⟩
  | log event next ih => exact ih first second
  | call request next ih =>
    obtain ⟨allowed, reply, after, answered, rest⟩ := first
    obtain ⟨-, other, later, also, more⟩ := second
    cases answered.symm.trans also
    exact ⟨allowed, reply, after, answered, ih reply rest more⟩

@[simp] theorem meets_bind (program : Program α) (next : α → Program β) (state : σ)
    (post : List Entry → β → σ → Prop) :
    (program.bind next).Meets discipline state post ↔
      program.Meets discipline state fun entries result after =>
        (next result).Meets discipline after fun more => post (entries ++ more) := by
  induction program generalizing state post with
  | done result => rfl
  | log event rest ih => simp only [bind, meets_log, ih, List.cons_append]
  | call request rest ih => simp only [bind, meets_call, ih, List.cons_append]

theorem Meets.run {program : Program α} {state : σ} {post : List Entry → α → σ → Prop}
    (meets : program.Meets discipline state post) :
    ∃ entries result after,
      program.run discipline.boundary state = ⟨.ok result, entries, after⟩ ∧
        post entries result after := by
  induction program generalizing state post with
  | done result => exact ⟨[], result, state, rfl, meets⟩
  | log event next ih =>
    obtain ⟨entries, result, after, ran, holds⟩ := ih meets
    exact ⟨_, result, after, by rw [Program.run, ran], holds⟩
  | call request next ih =>
    obtain ⟨-, reply, between, answered, rest⟩ := meets
    obtain ⟨entries, result, after, ran, holds⟩ := ih reply rest
    refine ⟨_, result, after, ?_, holds⟩
    rw [Program.run, answered]
    simp only [ran]

/-- Whatever is answered, only calls of one kind are made and the result is as `post` says. -/
def Within (allowed : Call → Prop) (post : α → Prop) : Program α → Prop
  | done result => post result
  | log _ next => next.Within allowed post
  | call request next => allowed request ∧ ∀ reply, (next reply).Within allowed post

variable {allowed : Call → Prop}

@[simp] theorem within_done (post : α → Prop) (result : α) :
    (done result).Within allowed post ↔ post result := Iff.rfl

@[simp] theorem within_log (post : α → Prop) (event : Event) (next : Program α) :
    (log event next).Within allowed post ↔ next.Within allowed post := Iff.rfl

@[simp] theorem within_call (post : α → Prop) (request : Call) (next : request.Reply → Program α) :
    (call request next).Within allowed post ↔
      allowed request ∧ ∀ reply, (next reply).Within allowed post := Iff.rfl

@[simp] theorem within_bind (post : β → Prop) (program : Program α) (next : α → Program β) :
    (program.bind next).Within allowed post ↔
      program.Within allowed fun result => (next result).Within allowed post := by
  induction program with
  | done result => rfl
  | log event rest ih => simpa only [bind, within_log] using ih
  | call request rest ih => simp only [bind, within_call, ih]

theorem Within.mono {program : Program α} {post out : α → Prop}
    (within : program.Within allowed post) (implies : ∀ result, post result → out result) :
    program.Within allowed out := by
  induction program with
  | done result => exact implies result within
  | log event next ih => exact ih within
  | call request next ih => exact ⟨within.1, fun reply => ih reply (within.2 reply)⟩

theorem Within.widen {program : Program α} {wider : Call → Prop} {post : α → Prop}
    (within : program.Within allowed post) (permits : ∀ request, allowed request → wider request) :
    program.Within wider post := by
  induction program with
  | done result => exact within
  | log event next ih => exact ih within
  | call request next ih => exact ⟨permits request within.1, fun reply => ih reply (within.2 reply)⟩

/-- Every program makes calls of some kind. -/
theorem within_any (program : Program α) : program.Within (fun _ => True) fun _ => True := by
  induction program with
  | done result => exact trivial
  | log event next ih => exact ih
  | call request next ih => exact ⟨trivial, ih⟩

/-- What each call of a kind leaves of a boundary's state, whether it is answered or refused, a run of
such calls leaves, also one that is cut short. -/
theorem Within.run_keeps {program : Program α} {post : α → Prop} {boundary : Boundary σ}
    {invariant : σ → Prop} {state : σ} (within : program.Within allowed post)
    (step : ∀ call state, allowed call → invariant state → invariant (boundary call state).2)
    (initial : invariant state) : invariant (program.run boundary state).state := by
  induction program generalizing state with
  | done result => exact initial
  | log event next ih => exact ih within initial
  | call request next ih =>
    have kept := step request state within.1 initial
    rw [Program.run]
    split
    next misuse after refused =>
      rw [refused] at kept
      exact kept
    next reply after answered =>
      rw [answered] at kept
      exact ih reply (within.2 reply) kept

/-- What a run gives, if it is not cut short, is as was said. -/
theorem Within.run_post {program : Program α} {post : α → Prop} {boundary : Boundary σ} {state : σ}
    {result : α} (within : program.Within allowed post)
    (gave : (program.run boundary state).result = .ok result) : post result := by
  induction program generalizing state with
  | done value =>
    cases gave
    exact within
  | log event next ih => exact ih within gave
  | call request next ih =>
    rw [Program.run] at gave
    split at gave
    · cases gave
    · exact ih _ (within.2 _) gave

/-- A program that makes calls of one kind keeps whatever each of these calls keeps. -/
theorem Within.meets {program : Program α} {post : α → Prop} {invariant : σ → Prop} {state : σ}
    (within : program.Within allowed post)
    (step : ∀ request state, allowed request → invariant state →
      discipline.allows request state ∧
        ∃ reply after, discipline.boundary request state = (.ok reply, after) ∧ invariant after)
    (initial : invariant state) :
    program.Meets discipline state fun _ result after => post result ∧ invariant after := by
  -- Every reply is allowed for by `within`, the one that is given among them.
  induction program generalizing state with
  | done result => exact ⟨within, initial⟩
  | log event next ih => exact ih within initial
  | call request next ih =>
    obtain ⟨inOrder, reply, after, answered, kept⟩ := step request state within.1 initial
    exact ⟨inOrder, reply, after, answered, ih reply (within.2 reply) kept⟩

theorem Meets.within {program : Program α} {state : σ} {post : List Entry → α → σ → Prop}
    {out : α → Prop} (meets : program.Meets discipline state post)
    (within : program.Within allowed out) :
    program.Meets discipline state fun entries result after =>
      post entries result after ∧ out result ∧
        ∀ request reply, Entry.called request reply ∈ entries → allowed request := by
  induction program generalizing state post with
  | done result => exact ⟨meets, within, fun _ _ member => nomatch member⟩
  | log event next ih =>
    apply (ih meets within).mono
    intro entries result after holds
    refine ⟨holds.1, holds.2.1, fun request reply member => ?_⟩
    exact holds.2.2 request reply ((List.mem_cons.mp member).resolve_left (fun same => nomatch same))
  | call request next ih =>
    obtain ⟨inOrder, reply, between, answered, rest⟩ := meets
    refine ⟨inOrder, reply, between, answered, ?_⟩
    apply (ih reply rest (within.2 reply)).mono
    intro entries result after holds
    refine ⟨holds.1, holds.2.1, fun other answer member => ?_⟩
    rcases List.mem_cons.mp member with same | member
    · cases same
      exact within.1
    · exact holds.2.2 other answer member

end Program

end CephMount
