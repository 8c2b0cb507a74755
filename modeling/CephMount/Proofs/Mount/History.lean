import CephMount.Proofs.Life
import CephMount.Proofs.Mount.Requests

/-! The tracked state of a mount, told from what was done with it.

The boundary is any that answers every call. Main statement: the last mount or unmount that succeeded
tells the state, or else whether anything was configured; each operation that is one request makes one
call, and its code alone decides whether the operation succeeded.
-/

set_option autoImplicit false

namespace CephMount

variable {σ : Type}

namespace Operation

/-- The request of an operation that is one request. -/
inductive Asks : Operation → Request → Prop where
  | configure {setting : Setting} {request : Request} : setting.Asks request →
      Asks (.configure setting) request
  | mount : Asks .mount (.mount none)
  | unmount : Asks .unmount .unmount
  | sync : Asks .sync .syncFs
  | path {operation : PathOperation} {request : Request} : operation.Asks request →
      Asks (.path operation) request

/-- The operation is one request, and none of its arguments holds a NUL. -/
def Crosses : Operation → Prop
  | configure setting => setting.Unbroken
  | mount | unmount | sync => True
  | path operation => '\x00' ∉ operation.target.toList
  | getOption _ | isMounted | currentDir | command _ => False

def configures : Operation → Bool
  | configure _ => true
  | _ => false

/-- The state that an operation leads to by itself. -/
def reaches? : Operation → Option MountState
  | mount => some .mounted
  | unmount => some .unmounted
  | _ => none

/-- The operation can change the tracked state. Neither a look at the library's flag nor anything done
to a path or by a command can. -/
def decides (operation : Operation) : Bool := operation.configures || operation.reaches?.isSome

/-- The state after an operation that succeeds. -/
def advance (operation : Operation) (state : MountState) : MountState :=
  match operation with
  | configure _ => state.afterConfigure
  | mount => .mounted
  | unmount => .unmounted
  | _ => state

end Operation

/-- One operation of a run: what it gave, what it called and reported, and the tracked state around
it. -/
structure Performed where
  operation : Operation
  outcome : Outcome Answer
  entries : List Entry
  before : MountState
  after : MountState

namespace Performed

def succeeded (step : Performed) : Bool := step.outcome.isOk

/-- One call is made, and its code alone decides what the operation gives. -/
def AsksOnce (handle : Handle) (step : Performed) : Prop :=
  ∃ request code, step.operation.Asks request ∧
    Trace.calls step.entries = [.called (.request handle request) code] ∧
    step.outcome = if code = 0 then .ok .nothing else .error (.library ⟨code⟩)

/-- All that one operation can come to. -/
structure Follows (handle : Handle) (step : Performed) : Prop where
  once : step.operation.Crosses → step.AsksOnce handle
  advances : step.after =
    if step.succeeded then step.operation.advance step.before else step.before

/-- Operations in a row, each from the state in which the one before it left the mount. -/
inductive Row (handle : Handle) : MountState → List Performed → MountState → Prop where
  | nil {state : MountState} : Row handle state [] state
  | cons {step : Performed} {rest : List Performed} {last : MountState} : step.Follows handle →
      Row handle step.after rest last → Row handle step.before (step :: rest) last

theorem Row.append {handle : Handle} {first between last : MountState} {early late : List Performed}
    (left : Row handle first early between) (right : Row handle between late last) :
    Row handle first (early ++ late) last := by
  induction left with
  | nil => exact right
  | cons follows _ ih => exact .cons follows (ih right)

end Performed

/-- The operations of a history that succeeded, in order. -/
def Performed.achieved (history : List Performed) : List Operation :=
  (history.filter Performed.succeeded).map Performed.operation

/-- The state that the operations that succeeded tell: that of the last mount or unmount, and without
any of these, whether something was configured. -/
def MountState.told (achieved : List Operation) : MountState :=
  match (achieved.filterMap Operation.reaches?).getLast? with
  | some state => state
  | none => if achieved.any Operation.configures then .configured else .allocated

/-- Configuring changes no state that a mount or unmount leads to. -/
theorem Operation.afterConfigure_of_reaches? {operation : Operation} {state : MountState}
    (reaches : operation.reaches? = some state) : state.afterConfigure = state := by
  cases operation <;> cases reaches <;> rfl

theorem MountState.told_append_singleton (achieved : List Operation) (operation : Operation) :
    told (achieved ++ [operation]) = operation.advance (told achieved) := by
  cases operation with
  | mount | unmount => simp [told, Operation.reaches?, Operation.advance]
  | configure setting =>
    have unmoved : (achieved ++ [Operation.configure setting]).filterMap Operation.reaches? =
        achieved.filterMap Operation.reaches? := by simp [Operation.reaches?]
    simp only [told, Operation.advance, unmoved]
    cases last : (achieved.filterMap Operation.reaches?).getLast? with
    | some state =>
      obtain ⟨earlier, -, reaches⟩ := List.mem_filterMap.mp (List.mem_of_getLast? last)
      exact (Operation.afterConfigure_of_reaches? reaches).symm
    | none =>
      cases configured : achieved.any Operation.configures <;>
        simp [configured, Operation.configures, afterConfigure]
  | _ => simp [told, Operation.reaches?, Operation.configures, Operation.advance]

/-- What does not decide the state tells nothing of it. -/
theorem MountState.told_filter_decides (achieved : List Operation) :
    told (achieved.filter Operation.decides) = told achieved := by
  have reached : (achieved.filter Operation.decides).filterMap Operation.reaches? =
      achieved.filterMap Operation.reaches? := by
    rw [List.filterMap_filter]
    refine congrArg (List.filterMap · achieved) (funext fun operation => ?_)
    cases operation <;> rfl
  have configured : (achieved.filter Operation.decides).any Operation.configures =
      achieved.any Operation.configures := by
    rw [List.any_filter]
    refine congrArg achieved.any (funext fun operation => ?_)
    cases operation <;> rfl
  rw [told, told, reached, configured]

theorem Performed.achieved_append (early late : List Performed) :
    achieved (early ++ late) = achieved early ++ achieved late := by
  rw [achieved, List.filter_append, List.map_append]
  rfl

/-- One operation moves the state on as its history tells. -/
theorem Performed.Follows.told {handle : Handle} {step : Performed} (follows : step.Follows handle)
    {past : List Performed} (before : step.before = .told (achieved past)) :
    step.after = .told (achieved (past ++ [step])) := by
  rw [follows.advances, before, achieved_append]
  cases succeeded : step.succeeded with
  | true =>
    have one : achieved [step] = [step.operation] := by simp [achieved, succeeded]
    rw [one, MountState.told_append_singleton, if_pos rfl]
  | false =>
    have none : achieved [step] = [] := by simp [achieved, succeeded]
    rw [none, List.append_nil, if_neg Bool.false_ne_true]

/-- A row that starts from what the past tells ends in what the past and the row tell, and so at every
place in between. -/
theorem Performed.Row.told {handle : Handle} {first last : MountState} {history : List Performed}
    (row : Row handle first history last) (past : List Performed)
    (before : first = .told (achieved past)) :
    last = .told (achieved (past ++ history)) ∧
      ∀ early step late, history = early ++ step :: late →
        step.before = .told (achieved (past ++ early)) ∧
          step.after = .told (achieved (past ++ early ++ [step])) := by
  induction row generalizing past with
  | nil =>
    refine ⟨by rw [List.append_nil, before], fun early step late split => ?_⟩
    exact absurd split.symm (List.append_ne_nil_of_right_ne_nil early (List.cons_ne_nil step late))
  | @cons head rest last follows _ ih =>
    have after := follows.told before
    obtain ⟨ended, between⟩ := ih (past ++ [head]) after
    refine ⟨by simpa using ended, fun early step late split => ?_⟩
    cases early with
    | nil =>
      cases split
      rw [List.append_nil]
      exact ⟨before, after⟩
    | cons second early =>
      obtain ⟨rfl, tails⟩ := List.cons.inj split
      simpa using between early step late tails

theorem Performed.Row.follows {handle : Handle} {first last : MountState} {history : List Performed}
    (row : Row handle first history last) {step : Performed} (member : step ∈ history) :
    step.Follows handle := by
  induction row with
  | nil => cases member
  | cons follows _ ih =>
    rcases List.mem_cons.mp member with rfl | member
    · exact follows
    · exact ih member

/-- An operation that fails, or that does not decide the state, leaves it. -/
theorem Performed.Follows.kept {handle : Handle} {step : Performed} (follows : step.Follows handle)
    (idle : step.succeeded = false ∨ step.operation.decides = false) : step.after = step.before := by
  rw [follows.advances]
  rcases idle with failed | undecided
  · rw [failed, if_neg Bool.false_ne_true]
  · have still : step.operation.advance step.before = step.before := by
      cases kind : step.operation with
      | configure _ | mount | unmount => rw [kind] at undecided; cases undecided
      | _ => rfl
    rw [still, ite_self]

/-- The tracked state is what its history tells, around every operation and at the end. -/
structure Mount.Told (mount : Mount) (history : List Performed) : Prop where
  once : ∀ step ∈ history, step.operation.Crosses → step.AsksOnce mount.handle
  around : ∀ early step late, history = early ++ step :: late →
    step.before = .told (Performed.achieved early) ∧
      step.after = .told (Performed.achieved (early ++ [step]))
  kept : ∀ step ∈ history, step.succeeded = false ∨ step.operation.decides = false →
    step.after = step.before
  state : mount.state = .told (Performed.achieved history)
  decided : mount.state = .told ((Performed.achieved history).filter Operation.decides)

theorem Performed.Row.tells {mount : Mount} {history : List Performed}
    (row : Row mount.handle .allocated history mount.state) : mount.Told history := by
  obtain ⟨state, around⟩ := row.told [] rfl
  exact {
    once := fun step member => (row.follows member).once
    around := around
    kept := fun step member => (row.follows member).kept
    state := state
    decided := state.trans (MountState.told_filter_decides _).symm }

/-! Operations as steps of a history. -/

/-- A boundary that answers every call leaves no program without a result. -/
theorem Program.meets_any {α : Type} (program : Program α) (answers : Answers σ) (state : σ) :
    program.Meets (.answering answers) state fun _ _ _ => True := by
  induction program generalizing state with
  | done result => exact trivial
  | log event next ih => exact ih state
  | call request next ih => exact (Program.meets_call_answering ..).mpr (ih _ _)

namespace Mount

/-- What an operation leaves: the mount on its handle, and a step of its history. -/
def Steps (mount : Mount) (operation : Operation) (entries : List Entry)
    (outcome : Outcome Answer) (after : Mount) : Prop :=
  after.handle = mount.handle ∧
    Performed.Follows mount.handle ⟨operation, outcome, entries, mount.state, after.state⟩

variable (answers : Answers σ)

/-- The outcome of an operation that gives no answer. -/
def plain (outcome : Outcome Unit) : Outcome Answer := outcome.map fun () => .nothing

theorem plain_outcomeOf (code : Int32) :
    plain (outcomeOf code) = if code = 0 then .ok .nothing else .error (.library ⟨code⟩) := by
  unfold outcomeOf
  split <;> rfl

/-- A request whose success moves the state on is a step. -/
theorem steps_of_asks {mount : Mount} {operation : Operation} {request : Request} {code : Int32}
    {entries : List Entry} (asks : operation.Asks request)
    (calls : Trace.calls entries = [mount.asked request code]) :
    mount.Steps operation entries (plain (outcomeOf code))
      { mount with state := if code = 0 then operation.advance mount.state else mount.state } := by
  refine ⟨rfl, fun _ => ⟨request, code, asks, calls, plain_outcomeOf code⟩, ?_⟩
  change (if code = 0 then _ else _) = if (plain (outcomeOf code)).isOk = true then _ else _
  rw [plain_outcomeOf]
  by_cases granted : code = 0 <;> simp [granted, Except.isOk, Except.toBool]

/-- An operation that leaves the mount as it was, and is none of those that are one request. -/
theorem steps_of_idle {mount : Mount} {operation : Operation} (many : ¬operation.Crosses)
    (undecided : operation.decides = false) (entries : List Entry) (outcome : Outcome Answer) :
    mount.Steps operation entries outcome mount := by
  refine ⟨rfl, fun crosses => absurd crosses many, ?_⟩
  have still : operation.advance mount.state = mount.state := by
    cases operation with
    | configure _ | mount | unmount => cases undecided
    | _ => rfl
  simp only [still, ite_self]

theorem configure_steps (mount : Mount) (setting : Setting) (state : σ) :
    (mount.configure setting).Meets (.answering answers) state fun entries result _ =>
      mount.Steps (.configure setting) entries (plain result.1) result.2 := by
  apply (mount.configure_meets answers setting state).mono
  intro entries result _ configures
  generalize called : Trace.calls entries = calls at configures
  cases configures with
  | granted asks => exact steps_of_asks (.configure asks) called
  | refused asks failed =>
    have steps := steps_of_asks (.configure asks) called
    rwa [outcomeOf, if_neg failed, if_neg failed] at steps
  | broken broken =>
    exact ⟨rfl, fun crosses => absurd crosses broken.not_unbroken, rfl⟩

theorem advance_steps (mount : Mount) {operation : Operation} {request : Request} (after : MountState)
    (asks : operation.Asks request) (leads : operation.advance mount.state = after) (state : σ) :
    (mount.advance request after).Meets (.answering answers) state fun entries result _ =>
      mount.Steps operation entries (plain result.1) result.2 := by
  rw [advance, Program.bind_eq_bind, Program.meets_bind]
  apply (mount.checked_meets answers request state).mono
  intro entries outcome between checked
  obtain ⟨code, calls, rfl⟩ := checked
  by_cases granted : code = 0
  · -- The transition reports the new state and calls nothing.
    subst granted
    have reported : Trace.calls
        (entries ++ [.reported (.stateChanged mount.handle mount.state after)]) =
          [mount.asked request 0] := by simpa using calls
    have steps := steps_of_asks asks reported
    rwa [leads] at steps
  · have steps := steps_of_asks asks calls
    rw [outcomeOf, if_neg granted, if_neg granted] at steps
    rw [outcomeOf, if_neg granted]
    simpa using steps

theorem checked_steps (mount : Mount) {operation : Operation} {request : Request}
    (asks : operation.Asks request) (leads : operation.advance mount.state = mount.state) (state : σ) :
    (mount.checked request).Meets (.answering answers) state fun entries outcome _ =>
      mount.Steps operation entries (plain outcome) mount := by
  apply (mount.checked_meets answers request state).mono
  intro entries outcome _ checked
  obtain ⟨code, calls, rfl⟩ := checked
  have steps := steps_of_asks asks calls
  rwa [leads, ite_self] at steps

theorem atPath_steps (mount : Mount) (operation : PathOperation) (state : σ) :
    (mount.atPath operation).Meets (.answering answers) state fun entries outcome _ =>
      mount.Steps (.path operation) entries (plain outcome) mount := by
  unfold atPath
  rcases operation.request_cases with ⟨request, crossed, asks⟩ | ⟨offset, crossed, broken⟩
  · simp only [crossed]
    exact mount.checked_steps answers (.path asks) rfl state
  · simp only [crossed]
    exact ⟨rfl, fun unbroken => absurd broken.mem_text unbroken, rfl⟩

/-- A program whose result is the answer and nothing else is a step that leaves the mount. -/
theorem answer_steps {α : Type} (mount : Mount) {operation : Operation} (many : ¬operation.Crosses)
    (undecided : operation.decides = false) (program : Program α) (answer : α → Outcome Answer)
    (state : σ) :
    (program.bind fun value => .done (answer value, mount)).Meets (.answering answers) state
      fun entries result _ => mount.Steps operation entries result.1 result.2 := by
  refine (Program.meets_bind ..).mpr ((program.meets_any answers state).mono ?_)
  intro entries value _ _
  exact steps_of_idle many undecided _ _

theorem perform_steps (mount : Mount) (operation : Operation) (state : σ) :
    (mount.perform operation).Meets (.answering answers) state fun entries result _ =>
      mount.Steps operation entries result.1 result.2 := by
  -- The result of an operation is that of its program, put in the form that all have in common.
  have finished {α : Type} {program : Program α} {finish : α → Outcome Answer × Mount}
      (meets : program.Meets (.answering answers) state fun entries value _ =>
        mount.Steps operation entries (finish value).1 (finish value).2) :
      (program.bind fun value => .done (finish value)).Meets (.answering answers) state
        fun entries result _ => mount.Steps operation entries result.1 result.2 := by
    refine (Program.meets_bind ..).mpr (meets.mono fun entries value _ steps => ?_)
    simpa using steps
  cases operation with
  | configure setting => exact finished (mount.configure_steps answers setting state)
  | mount => exact finished (mount.advance_steps answers .mounted .mount rfl state)
  | unmount => exact finished (mount.advance_steps answers .unmounted .unmount rfl state)
  | sync => exact finished (mount.checked_steps answers .sync rfl state)
  | path operation => exact finished (mount.atPath_steps answers operation state)
  | getOption key => exact mount.answer_steps answers id rfl _ _ state
  | isMounted => exact mount.answer_steps answers id rfl _ _ state
  | currentDir => exact mount.answer_steps answers id rfl _ _ state
  | command line => exact mount.answer_steps answers id rfl _ _ state

/-! Runs of operations, and the mounts they are done with. -/

/-- A history records what a run of operations did: every entry of the run belongs to a step. -/
structure Records (mount : Mount) (operations : List Operation) (entries : List Entry)
    (history : List Performed) (after : Mount) : Prop where
  operations : history.map Performed.operation = operations
  entries : entries = history.flatMap Performed.entries
  handle : after.handle = mount.handle
  row : Performed.Row mount.handle mount.state history after.state

theorem Records.none (mount : Mount) : mount.Records [] [] [] mount := ⟨rfl, rfl, rfl, .nil⟩

theorem Records.after {mount between last : Mount} {operation : Operation}
    {operations : List Operation} {first entries : List Entry} {outcome : Outcome Answer}
    {history : List Performed} (records : between.Records operations entries history last)
    (steps : mount.Steps operation first outcome between) :
    mount.Records (operation :: operations) (first ++ entries)
      (⟨operation, outcome, first, mount.state, between.state⟩ :: history) last where
  operations := congrArg (List.cons operation) records.operations
  entries := congrArg (first ++ ·) records.entries
  handle := records.handle.trans steps.1
  row := .cons steps.2 (steps.1 ▸ records.row)

theorem Records.append {mount between last : Mount} {early late : List Operation}
    {first rest : List Entry} {past history : List Performed}
    (left : mount.Records early first past between) (right : between.Records late rest history last) :
    mount.Records (early ++ late) (first ++ rest) (past ++ history) last where
  operations := by rw [List.map_append, left.operations, right.operations]
  entries := by rw [List.flatMap_append, ← left.entries, ← right.entries]
  handle := right.handle.trans left.handle
  row := left.row.append (left.handle ▸ right.row)

/-- What is said of an operation is said of the step in configuring that it is. -/
theorem configure_of_perform {mount : Mount} {setting : Setting} {state : σ}
    {post : List Entry → Outcome Answer × Mount → σ → Prop}
    (meets : (mount.perform (.configure setting)).Meets (.answering answers) state post) :
    (mount.configure setting).Meets (.answering answers) state fun entries result =>
      post entries (plain result.1, result.2) := by
  refine ((Program.meets_bind ..).mp meets).mono fun entries result _ holds => ?_
  change post (entries ++ []) _ _ at holds
  rwa [List.append_nil] at holds

end Mount

/-- What the parts of a life have, each by itself: the making of a handle, each operation, and the drop
of a mount that was prepared partly. -/
structure Life.Traits where
  opening : List Entry → Prop
  step : Performed → Prop
  dropped : Mount → List Entry → Prop

/-- The parts have it, whatever mount they are parts of the life of. -/
structure Life.Traits.Hold (traits : Life.Traits) (answers : Answers σ) : Prop where
  create : ∀ (id : Option String) (state : σ),
    (Mount.create id).Meets (.answering answers) state fun entries _ _ => traits.opening entries
  fromCluster : ∀ (cluster : Nat) (state : σ),
    (Mount.fromCluster cluster).Meets (.answering answers) state fun entries _ _ =>
      traits.opening entries
  perform : ∀ (mount : Mount) (operation : Operation) (state : σ),
    (mount.perform operation).Meets (.answering answers) state fun entries result _ =>
      traits.step ⟨operation, result.1, entries, mount.state, result.2.state⟩
  drop : ∀ (mount : Mount) (state : σ),
    mount.drop.Meets (.answering answers) state fun entries _ _ => traits.dropped mount entries

/-- Nothing is asked of the parts. -/
def Life.Traits.any : Life.Traits := ⟨fun _ => True, fun _ => True, fun _ _ => True⟩

theorem Life.Traits.Hold.any (answers : Answers σ) : Life.Traits.any.Hold answers where
  create id state := (Mount.create id).meets_any answers state
  fromCluster cluster state := (Mount.fromCluster cluster).meets_any answers state
  perform mount operation state := (mount.perform operation).meets_any answers state
  drop mount state := mount.drop.meets_any answers state

namespace Mount

variable (answers : Answers σ) {traits : Life.Traits}

theorem performAll_traits (hold : traits.Hold answers) (mount : Mount) (operations : List Operation)
    (state : σ) :
    (mount.performAll operations).Meets (.answering answers) state fun entries result _ =>
      ∃ history, mount.Records operations entries history result.2 ∧
        history.map Performed.outcome = result.1 ∧ ∀ step ∈ history, traits.step step := by
  induction operations generalizing mount state with
  | nil => exact ⟨[], .none mount, rfl, List.forall_mem_nil _⟩
  | cons operation rest ih =>
    rw [performAll, Program.bind_eq_bind, Program.meets_bind]
    apply ((mount.perform_steps answers operation state).and (hold.perform mount operation state)).mono
    rintro first result between ⟨steps, holds⟩
    refine (Program.meets_bind ..).mpr ((ih result.2 between).mono ?_)
    rintro entries results _ ⟨history, records, outcomes, others⟩
    have after := records.after steps
    rw [← List.append_nil entries] at after
    exact ⟨_, after, congrArg (List.cons result.1) outcomes, List.forall_mem_cons.mpr ⟨holds, others⟩⟩

theorem performAll_records (mount : Mount) (operations : List Operation) (state : σ) :
    (mount.performAll operations).Meets (.answering answers) state fun entries result _ =>
      ∃ history, mount.Records operations entries history result.2 ∧
        history.map Performed.outcome = result.1 := by
  apply (mount.performAll_traits answers (.any answers) operations state).mono
  rintro entries result _ ⟨history, records, outcomes, -⟩
  exact ⟨history, records, outcomes⟩

/-- What is left of a preparation: all of its steps performed, or those up to one that failed, and a drop
behind them. -/
def Prepared (dropped : Mount → List Entry → Prop) (mount : Mount) (settings : List Setting)
    (entries : List Entry) (past : List Performed) : Outcome Mount → Prop
  | .ok after => mount.Records (settings.map .configure) entries past after
  | .error _ => ∃ taken during partly last, taken <+: settings.map Operation.configure ∧
      entries = during ++ last ∧ mount.Records taken during past partly ∧ dropped partly last

theorem Prepared.after {dropped : Mount → List Entry → Prop} {mount configured : Mount}
    {setting : Setting} {settings : List Setting} {first entries : List Entry}
    {outcome : Outcome Answer} {past : List Performed} {prepared : Outcome Mount}
    (rest : configured.Prepared dropped settings entries past prepared)
    (steps : mount.Steps (.configure setting) first outcome configured) :
    mount.Prepared dropped (setting :: settings) (first ++ entries)
      (⟨.configure setting, outcome, first, mount.state, configured.state⟩ :: past) prepared := by
  cases prepared with
  | ok after => exact Records.after rest steps
  | error error =>
    obtain ⟨taken, during, partly, last, early, rfl, records, ended⟩ := rest
    refine ⟨_, first ++ during, partly, last, ?_, (List.append_assoc ..).symm, records.after steps, ended⟩
    exact List.cons_prefix_cons.mpr ⟨rfl, early⟩

/-- A preparation performs its steps, and drops the mount if one of them fails. -/
theorem prepare_traits (hold : traits.Hold answers) (mount : Mount) (settings : List Setting)
    (state : σ) :
    (mount.prepare settings).Meets (.answering answers) state fun entries outcome _ =>
      ∃ past, mount.Prepared traits.dropped settings entries past outcome ∧
        ∀ step ∈ past, traits.step step := by
  induction settings generalizing mount state with
  | nil => exact ⟨[], .none mount, List.forall_mem_nil _⟩
  | cons setting rest ih =>
    rw [prepare, Program.bind_eq_bind, Program.meets_bind]
    apply ((mount.configure_steps answers setting state).and
      (configure_of_perform answers (hold.perform mount (.configure setting) state))).mono
    rintro first ⟨outcome, configured⟩ between ⟨steps, holds⟩
    cases outcome with
    | ok =>
      apply (ih configured between).mono
      rintro entries prepared _ ⟨past, rest, others⟩
      exact ⟨_, rest.after steps, List.forall_mem_cons.mpr ⟨holds, others⟩⟩
    | error error =>
      refine (Program.meets_bind ..).mpr ((hold.drop configured between).mono ?_)
      intro last _ _ ended
      have records := (Records.none configured).after steps
      have one : [Operation.configure setting] <+: (setting :: rest).map .configure :=
        List.cons_prefix_cons.mpr ⟨rfl, List.nil_prefix⟩
      refine ⟨_, ⟨_, first ++ [], configured, last, one, by simp, records, ended⟩, ?_⟩
      exact List.forall_mem_singleton.mpr holds

end Mount

/-- The steps that a creation takes with the mount before its caller has it. -/
def Creation.settings : Creation → List Setting
  | fresh _ | derived _ => []
  | prepared config => config.settings

/-- Make a mount, and do operations with it. -/
def Creation.use (creation : Creation) (operations : List Operation) :
    Program (Outcome (List (Outcome Answer) × Mount)) := do
  match ← creation.program with
  | .error error => return .error error
  | .ok mount => return .ok (← mount.performAll operations)

/-- The run that made a mount: one call gave the handle out, and what was done with the mount before
its caller had it is a history from a fresh state. -/
def Creation.Makes (creation : Creation) (entries : List Entry) (past : List Performed)
    (mount : Mount) : Prop :=
  ∃ opening rest call, entries = opening ++ rest ∧ Trace.calls opening = [call] ∧
    call.made? = some mount.handle ∧
    Mount.Records ⟨mount.handle, .allocated⟩ (creation.settings.map .configure) rest past mount

/-- What is left of a creation: it made no handle, or one call gave a handle out, and what was done with
it is left of a preparation from a fresh state. -/
inductive Creation.Leads (traits : Life.Traits) (creation : Creation) :
    List Entry → List Performed → Outcome Mount → Prop where
  | unmade {entries : List Entry} {error : Error} : traits.opening entries → Trace.made entries = [] →
      Leads traits creation entries [] (.error error)
  | made {opening rest : List Entry} {call : Entry} {handle : Handle} {past : List Performed}
      {outcome : Outcome Mount} : traits.opening opening → Trace.calls opening = [call] →
      call.made? = some handle →
      Mount.Prepared traits.dropped ⟨handle, .allocated⟩ creation.settings rest past outcome →
      Leads traits creation (opening ++ rest) past outcome

/-- The answer to a creation that only asks for a handle. -/
theorem Creation.leads_of_allocation {traits : Life.Traits} {creation : Creation} {opening : List Entry}
    {call : Entry} {answer : Except Int32 Handle} (idle : creation.settings = [])
    (opened : traits.opening opening) (calls : Trace.calls opening = [call])
    (made : call.made? = answer.toOption) :
    creation.Leads traits opening [] (Mount.allocation answer) := by
  cases answer with
  | error code =>
    refine .unmade opened ?_
    rw [← Trace.made_calls, calls, Trace.made_cons, made]
    rfl
  | ok handle =>
    rw [← List.append_nil opening]
    exact .made opened calls made (idle ▸ Mount.Records.none _)

theorem Creation.program_leads (answers : Answers σ) {traits : Life.Traits} (hold : traits.Hold answers)
    (creation : Creation) (state : σ) :
    creation.program.Meets (.answering answers) state fun entries outcome _ =>
      ∃ past, creation.Leads traits entries past outcome ∧ ∀ step ∈ past, traits.step step := by
  have created (id : Option String) :=
    (Mount.create_meets answers id state).and (hold.create id state)
  cases creation with
  | fresh id =>
    apply (created id).mono
    rintro entries _ _ ⟨⟨name, answer, -, calls, rfl⟩ | ⟨_, _, -, -, silent, rfl⟩, opened⟩
    · refine ⟨[], leads_of_allocation rfl opened calls ?_, List.forall_mem_nil _⟩
      exact Entry.made?_create name answer
    · refine ⟨[], .unmade opened ?_, List.forall_mem_nil _⟩
      rw [← Trace.made_calls, silent]
      rfl
  | derived cluster =>
    apply ((Mount.fromCluster_meets answers cluster state).and (hold.fromCluster cluster state)).mono
    rintro entries _ _ ⟨⟨answer, calls, rfl⟩, opened⟩
    refine ⟨[], leads_of_allocation rfl opened calls ?_, List.forall_mem_nil _⟩
    exact Entry.made?_createFromCluster cluster answer
  | prepared config =>
    rw [Creation.program, Mount.fromConfig, Program.bind_eq_bind, Program.meets_bind]
    apply (created config.clientId).mono
    rintro opening _ between ⟨⟨name, answer, -, calls, rfl⟩ | ⟨_, _, -, -, silent, rfl⟩, opened⟩
    · cases answer with
      | error code =>
        refine ⟨[], ?_, List.forall_mem_nil _⟩
        rw [← List.append_nil opening] at opened
        refine .unmade opened ?_
        rw [← Trace.made_calls, Trace.calls_append, calls]
        rfl
      | ok handle =>
        apply (Mount.prepare_traits answers hold ⟨handle, .allocated⟩ config.settings between).mono
        rintro rest outcome _ ⟨past, prepared, steps⟩
        exact ⟨past, .made opened calls rfl prepared, steps⟩
    · refine ⟨[], ?_, List.forall_mem_nil _⟩
      rw [← List.append_nil opening] at opened silent
      refine .unmade opened ?_
      rw [← Trace.made_calls, silent]
      rfl

theorem Creation.program_makes (answers : Answers σ) (creation : Creation) (state : σ) :
    creation.program.Meets (.answering answers) state fun entries outcome _ =>
      ∀ mount, outcome = .ok mount → ∃ past, creation.Makes entries past mount := by
  apply (creation.program_leads answers (.any answers) state).mono
  rintro _ _ _ ⟨past, leads, -⟩ mount rfl
  cases leads with
  | @made opening rest call handle _ _ _ calls made prepared =>
    have same := Mount.Records.handle prepared
    refine ⟨past, opening, rest, call, rfl, calls, made.trans (congrArg some same.symm), ?_⟩
    rw [same]
    exact prepared

/-- Whatever the boundary answers, and however the mount was made, its tracked state after any
operations is that of the last mount or unmount that succeeded, and without any of these it tells
whether something was configured. An operation that is one request makes one call and gives what the
code of the call says; one that fails, or does not decide the state, leaves it. -/
theorem Creation.state_told_by_history (answers : Answers σ) (creation : Creation)
    (operations : List Operation) (state : σ) :
    ∃ entries outcome after,
      (creation.use operations).run (.answering answers) state = ⟨.ok outcome, entries, after⟩ ∧
        ∀ outcomes mount, outcome = .ok (outcomes, mount) →
          ∃ opening past history, entries = opening ++ (past ++ history).flatMap Performed.entries ∧
            (∃ call, Trace.calls opening = [call] ∧ call.made? = some mount.handle) ∧
            past.map Performed.operation = creation.settings.map .configure ∧
            history.map Performed.operation = operations ∧
            history.map Performed.outcome = outcomes ∧
            mount.Told (past ++ history) := by
  have meets : (creation.use operations).Meets (.answering answers) state fun entries outcome _ =>
      ∀ outcomes mount, outcome = .ok (outcomes, mount) →
        ∃ early past history made, creation.Makes early past made ∧
          ∃ late, entries = early ++ late ∧ made.Records operations late history mount ∧
            history.map Performed.outcome = outcomes := by
    rw [use, Program.bind_eq_bind, Program.meets_bind]
    apply (creation.program_makes answers state).mono
    intro early outcome between makes
    cases outcome with
    | error error => rintro _ _ ⟨⟩
    | ok made =>
      obtain ⟨past, makes⟩ := makes made rfl
      refine (Program.meets_bind ..).mpr ((made.performAll_records answers operations between).mono ?_)
      rintro late ⟨given, last⟩ _ ⟨history, records, outcomes⟩ _ mount ⟨⟩
      exact ⟨early, past, history, made, makes, late, by rw [List.append_nil], records, outcomes⟩
  obtain ⟨entries, outcome, after, ran, holds⟩ := meets.run
  refine ⟨entries, outcome, after, ran, fun outcomes mount used => ?_⟩
  obtain ⟨early, past, history, made, makes, late, rfl, records, given⟩ := holds outcomes mount used
  obtain ⟨opening, rest, call, rfl, calls, handed, settled⟩ := makes
  -- What was done before the caller had the mount and what the caller did are one history.
  have whole := settled.append records
  have same : mount.handle = made.handle := records.handle
  refine ⟨opening, past, history, ?_, ⟨call, calls, same ▸ handed⟩, settled.operations,
    records.operations, given, ?_⟩
  · rw [List.append_assoc, whole.entries]
  · have row := whole.row
    rw [← same] at row
    exact row.tells

end CephMount
