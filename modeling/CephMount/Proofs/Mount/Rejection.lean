import CephMount.Proofs.Mount.Course

/-! What is rejected before anything crosses, and that everything else crosses as it is.

A string that holds a NUL is a reason to reject whatever takes it, and so is a command without words.
Either is found before the first call, so the boundary never hears of it, whichever boundary it is.
What is not rejected begins with a call that carries its strings byte for byte.
-/

set_option autoImplicit false

namespace CephMount

variable {σ α β : Type}

/-! Errors by where they are found. -/

/-- The error is found before anything crosses. -/
def Error.isLocal : Error → Bool
  | interiorNul _ | emptyCommand => true
  | library _ | command _ | config _ => false

theorem Operation.Rejected.isLocal {operation : Operation} {error : Error}
    (rejected : operation.Rejected error) : error.isLocal = true := by
  cases rejected <;> rfl

theorem Operation.Rejected.unique {operation : Operation} {error other : Error}
    (first : operation.Rejected error) (second : operation.Rejected other) : error = other := by
  cases first with
  | wordless none =>
    cases second with
    | wordless _ => rfl
    | broken some _ => exact absurd none some
  | broken some nul =>
    cases second with
    | wordless none => exact absurd none some
    | broken _ also => rw [nul.unique also]

/-- If this is a failure, it was found behind the boundary. -/
def FailsBeyond (outcome : Outcome α) : Prop :=
  ∀ error, outcome = .error error → error.isLocal = false

theorem failsBeyond_ok (value : α) : FailsBeyond (.ok value : Outcome α) := nofun

theorem failsBeyond_library (code : ErrorCode) : FailsBeyond (.error (.library code) : Outcome α) := by
  intro error failed
  cases failed
  rfl

theorem Mount.concluded_failsBeyond (mount : Mount) (operation : Operation) (code : Int32) :
    FailsBeyond (mount.concluded operation code).1 := by
  unfold concluded
  split
  · exact failsBeyond_ok _
  · exact failsBeyond_library _

/-- What becomes of a run with its first call: the refusal is all there is, or the answer comes first
and the run goes on from it. -/
def Run.BeginsWith (boundary : Boundary σ) (state : σ) (call : Call) (run : Run σ α) : Prop :=
  match boundary call state with
  | (.error misuse, after) => run = ⟨.error misuse, [], after⟩
  | (.ok reply, _) => ∃ rest, run.entries = .called call reply :: rest

/-- The program begins with the call, and its failures come from behind the boundary. -/
def Program.Crosses (call : Call) (program : Program (Outcome Answer × Option Mount)) : Prop :=
  program.OpensWith call (fun _ => True) fun _ result => FailsBeyond result.1

theorem Program.Crosses.run {call : Call} {program : Program (Outcome Answer × Option Mount)}
    (crosses : program.Crosses call) (boundary : Boundary σ) (state : σ) :
    (program.run boundary state).BeginsWith boundary state call := by
  obtain ⟨next, rfl, -⟩ := crosses
  rw [Program.run, Run.BeginsWith]
  rcases boundary call state with ⟨misuse | reply, after⟩
  · exact rfl
  · exact ⟨_, rfl⟩

/-! Attempts. -/

/-- What a caller can try: to have a handle, or to do something with one. -/
inductive Attempt where
  | create (id : Option String)
  | operate (mount : Mount) (operation : Operation)

namespace Attempt

def program : Attempt → Program (Outcome Answer × Option Mount)
  | create id => do
    match ← Mount.create id with
    | .error error => return (.error error, none)
    | .ok mount => return (.ok .nothing, some mount)
  | operate mount operation => do
    let (outcome, mount) ← mount.perform operation
    return (outcome, some mount)

/-- The mount that there is before. -/
def mount? : Attempt → Option Mount
  | create _ => none
  | operate mount _ => some mount

/-- The strings of an attempt, in the order in which they are looked at. -/
def strings : Attempt → List Bytes
  | create id => (id.map Utf8.encode).toList
  | operate _ operation => operation.strings

def Wordless : Attempt → Prop
  | create _ => False
  | operate _ operation => operation.Wordless

/-- Why an attempt cannot cross. -/
inductive Rejected : Attempt → Error → Prop where
  | create {id : Option String} {offset : Nat} : FirstNul (Attempt.create id).strings offset →
      Rejected (.create id) (.interiorNul offset)
  | operate {mount : Mount} {operation : Operation} {error : Error} : operation.Rejected error →
      Rejected (.operate mount operation) error

/-- The call carries the strings of the attempt, byte for byte. -/
inductive CrossesAs : Attempt → Call → Prop where
  | create {id : Option String} {name : Option Terminated} :
      Option.Rel (fun text string => string.Spells text) id name → CrossesAs (.create id) (.create name)
  | request {mount : Mount} {operation : Operation} {request : Request} : operation.Asks request →
      CrossesAs (.operate mount operation) (.request mount.handle request)
  | getOption {mount : Mount} {key : String} {name : Terminated} : name.Spells key →
      CrossesAs (.operate mount (.getOption key))
        (.readOption mount.handle name (List.replicate Mount.firstBuffer 0))
  | command {mount : Mount} {line : CommandLine} {command : Command} : line.arguments ≠ [] →
      line.Reads command.image.read →
      CrossesAs (.operate mount (.command line)) (.command mount.handle command)
  | isMounted {mount : Mount} :
      CrossesAs (.operate mount .isMounted) (.request mount.handle .isMounted)
  | currentDir {mount : Mount} : CrossesAs (.operate mount .currentDir) (.currentDir mount.handle)

theorem Rejected.isLocal {attempt : Attempt} {error : Error} (rejected : attempt.Rejected error) :
    error.isLocal = true := by
  cases rejected with
  | create nul => rfl
  | operate rejected => exact rejected.isLocal

theorem Rejected.unique {attempt : Attempt} {error other : Error} (first : attempt.Rejected error)
    (second : attempt.Rejected other) : error = other := by
  cases first with
  | create nul =>
    cases second with
    | create also => rw [nul.unique also]
  | operate first =>
    cases second with
    | operate second => exact first.unique second

theorem exists_rejected_iff (attempt : Attempt) :
    (∃ error, attempt.Rejected error) ↔ attempt.Wordless ∨ ∃ string ∈ attempt.strings, 0 ∈ string := by
  rw [← exists_firstNul_iff]
  constructor
  · rintro ⟨error, nul | ⟨none | ⟨-, nul⟩⟩⟩
    · exact .inr ⟨_, nul⟩
    · exact .inl none
    · exact .inr ⟨_, nul⟩
  · intro unfit
    cases attempt with
    | create id =>
      obtain ⟨offset, nul⟩ := unfit.resolve_left not_false
      exact ⟨_, .create nul⟩
    | operate mount operation =>
      by_cases none : operation.Wordless
      · exact ⟨_, .operate (.wordless none)⟩
      · obtain ⟨offset, nul⟩ := unfit.resolve_left none
        exact ⟨_, .operate (.broken none nul)⟩

/-- What crosses is not rejected. -/
theorem CrossesAs.unrejected {attempt : Attempt} {call : Call} (crosses : attempt.CrossesAs call)
    (error : Error) : ¬attempt.Rejected error := by
  suffices fit : ¬attempt.Wordless ∧ ∀ string ∈ attempt.strings, 0 ∉ string by
    intro rejected
    rcases attempt.exists_rejected_iff.mp ⟨error, rejected⟩ with none | ⟨string, member, broken⟩
    · exact fit.1 none
    · exact fit.2 string member broken
  cases crosses with
  | create spelled =>
    refine ⟨not_false, ?_⟩
    cases spelled with
    | none => exact List.forall_mem_nil _
    | some spelled => exact List.forall_mem_singleton.mpr spelled.unbroken
  | request asks => exact ⟨fun none => by cases asks <;> exact none, asks.unbroken⟩
  | getOption spelled => exact ⟨not_false, List.forall_mem_singleton.mpr spelled.unbroken⟩
  | @command mount line command some reads =>
    rw [command.read_image] at reads
    refine ⟨some, List.forall_mem_cons.mpr ⟨reads.target ▸ command.target.unbroken, fun word member => ?_⟩⟩
    rw [← reads.words] at member
    obtain ⟨string, -, rfl⟩ := List.mem_map.mp member
    exact string.unbroken
  | isMounted | currentDir => exact ⟨not_false, List.forall_mem_nil _⟩

/-- All that an attempt can come to: its reason to be rejected and nothing else, or a call that carries
its strings. -/
inductive Comes (attempt : Attempt) : Prop where
  | rejected {error : Error} : attempt.Rejected error →
      attempt.program = .done (.error error, attempt.mount?) → Comes attempt
  | crosses {call : Call} : attempt.CrossesAs call → attempt.program.Crosses call → Comes attempt

theorem create_comes (id : Option String) : (create id).Comes := by
  have asked {name : Option Terminated} (accepted : Terminated.ofOptionalText id = .ok name)
      (spelled : Option.Rel (fun text string => Terminated.Spells string text) id name) :
      (create id).Comes := by
    have crosses : (create id).program.Crosses (.create name) := by
      rw [program, Mount.create, accepted]
      refine ⟨_, rfl, fun answer => ?_⟩
      cases answer with
      | ok handle => exact failsBeyond_ok _
      | error code => exact failsBeyond_library _
    exact .crosses (.create spelled) crosses
  cases id with
  | none => exact asked rfl .none
  | some text =>
    cases crossed : Terminated.ofText text with
    | ok name =>
      have accepted : Terminated.ofOptionalText (some text) = .ok (some name) := by
        rw [Terminated.ofOptionalText, crossed]
        rfl
      exact asked accepted (.some (Terminated.ofText_eq_ok_iff.mp crossed))
    | error offset =>
      refine .rejected (.create (Terminated.ofText_eq_error_iff.mp crossed).firstNul) ?_
      rw [program, Mount.create, Terminated.ofOptionalText, crossed]
      rfl

/-- An operation crosses with its mount. -/
theorem comes_of_opensWith {mount : Mount} {operation : Operation} {call : Call}
    (crosses : (operate mount operation).CrossesAs call)
    (opens : (mount.perform operation).OpensWith call (fun _ => True) fun _ result =>
      FailsBeyond result.1) :
    (operate mount operation).Comes :=
  .crosses crosses (opens.bind fun _ _ beyond => beyond)

theorem operate_comes (mount : Mount) (operation : Operation) : (operate mount operation).Comes := by
  cases mount.course operation with
  | @rejected _ error rejected is =>
    refine .rejected (.operate rejected) ?_
    rw [program, is]
    rfl
  | @concludes _ request asks concludes =>
    obtain ⟨next, is, within⟩ := concludes
    refine comes_of_opensWith (.request asks) ⟨next, is, fun code => ?_⟩
    refine ((within code).mono ?_).widen fun _ none => none.elim
    rintro _ rfl
    exact mount.concluded_failsBeyond operation code
  | @reads key name spelled is =>
    refine comes_of_opensWith (.getOption spelled) ?_
    rw [Mount.perform, is]
    refine (mount.readOption_opensWith name _ _ fun _ => trivial).bind fun _ outcome failed => ?_
    cases outcome with
    | ok value => exact failsBeyond_ok _
    | error error =>
      obtain ⟨code, -, rfl⟩ := failed error rfl
      exact failsBeyond_library ⟨code⟩
  | @sends line command some reads is =>
    refine comes_of_opensWith (.command some (command.read_image.symm ▸ reads)) ?_
    rw [Mount.perform, is]
    have sent : (mount.send line.target command).Within (fun _ => True) fun _ => True :=
      mount.send_within line.target command trivial fun _ _ => trivial
    have opens : (mount.send line.target command).OpensWith (.command mount.handle command)
        (fun _ => True) fun _ _ => True := ⟨_, rfl, sent.2⟩
    have given : ((mount.send line.target command).bind fun reply => .done (.ok reply)).OpensWith
        (.command mount.handle command) (fun _ => True)
        fun _ (outcome : Outcome CommandReply) => ∃ reply, outcome = .ok reply :=
      opens.bind fun _ reply _ => ⟨reply, rfl⟩
    refine given.bind ?_
    rintro _ _ ⟨reply, rfl⟩
    exact failsBeyond_ok _
  | isMounted =>
    refine comes_of_opensWith .isMounted ⟨_, rfl, fun code => ?_⟩
    simp only [Program.bind_eq_bind, Program.bind]
    split
    · exact failsBeyond_ok _
    · exact failsBeyond_ok _
  | currentDir => exact comes_of_opensWith .currentDir ⟨_, rfl, fun _ => failsBeyond_ok _⟩

theorem comes (attempt : Attempt) : attempt.Comes := by
  cases attempt with
  | create id => exact create_comes id
  | operate mount operation => exact operate_comes mount operation

/-- An attempt is rejected for a NUL or for a lack of words, and for nothing else. One that is rejected
makes no call, reports nothing and leaves the mount and the boundary as they were; any other attempt
begins with a call that carries its strings, and fails only with what comes from behind it. -/
theorem rejection_exact (attempt : Attempt) (boundary : Boundary σ) (state : σ) :
    let run := attempt.program.run boundary state
    ((∃ error, attempt.Rejected error) ↔
        attempt.Wordless ∨ ∃ string ∈ attempt.strings, 0 ∈ string) ∧
      (∀ error, attempt.Rejected error ↔
        error.isLocal = true ∧ ∃ left, run.result = .ok (.error error, left)) ∧
      (∀ error, attempt.Rejected error →
        run = ⟨.ok (.error error, attempt.mount?), [], state⟩) ∧
      ((∀ error, ¬attempt.Rejected error) →
        ∃ call, attempt.CrossesAs call ∧ run.BeginsWith boundary state call) := by
  refine ⟨attempt.exists_rejected_iff, ?_⟩
  cases attempt.comes with
  | @rejected error rejected is =>
    rw [is]
    refine ⟨fun other => ⟨fun also => ?_, fun ⟨_, left, gave⟩ => ?_⟩, fun other also => ?_, fun none => ?_⟩
    · cases rejected.unique also
      exact ⟨rejected.isLocal, attempt.mount?, rfl⟩
    · cases gave
      exact rejected
    · cases rejected.unique also
      rfl
    · exact absurd rejected (none error)
  | @crosses call carries crosses =>
    refine ⟨fun error => ⟨fun rejected => absurd rejected (carries.unrejected error), ?_⟩,
      fun error rejected => absurd rejected (carries.unrejected error),
      fun _ => ⟨call, carries, crosses.run boundary state⟩⟩
    rintro ⟨found, left, gave⟩
    have beyond := (crosses.within trivial fun _ _ beyond => beyond).run_post gave error rfl
    exact absurd (found.symm.trans beyond) (by decide)

end Attempt

end CephMount
