import CephMount.Proofs.Mount.History
import CephMount.Proofs.Mount.Reports
import Mathlib.Data.List.Forall2

/-! The transitions of the tracked state as a log tells them, over a boundary that may answer anything.

A mount or unmount that succeeds is told each time, and a step in configuring only if it is the first
thing to succeed on a fresh mount. Main statement: the events of state name the transitions in their
fields; from a fresh state each one goes on from where the one before it led, and after every operation
the last one led to the tracked state.
-/

set_option autoImplicit false

namespace CephMount

variable {σ α : Type}

/-! Transitions, as events tell them. -/

/-- From one state to another one. -/
structure Transition where
  before : MountState
  after : MountState
  deriving DecidableEq, Repr

def Event.transition? : Event → Option Transition
  | configured before after | stateChanged _ before after => some ⟨before, after⟩
  | _ => none

/-- The event is known by its message for one of state, and it names the two states in its fields. -/
structure Event.Shows (event : Event) (change : Transition) : Prop where
  message : event.message = "mount state"
  before : event.fields.lookup "from" = some (.text change.before.name)
  after : event.fields.lookup "to" = some (.text change.after.name)

/-- No event shows two transitions. -/
theorem Event.shows_rightUnique : Relator.RightUnique Event.Shows := by
  rintro event ⟨_, _⟩ ⟨_, _⟩ shown other
  have before := shown.before.symm.trans other.before
  have after := shown.after.symm.trans other.after
  simp only [Option.some.injEq, FieldValue.text.injEq] at before after
  exact congrArg₂ Transition.mk (MountState.eq_of_name_eq before) (MountState.eq_of_name_eq after)

def Entry.transition? : Entry → Option Transition
  | reported event => event.transition?
  | called _ _ => none

/-- The event that is reported, if its message says that it is one of state. -/
def Entry.stateEvent? : Entry → Option Event
  | reported event => if event.message = "mount state" then some event else none
  | called _ _ => none

/-- Events that tell a transition are told apart by their message, and show the transition. -/
theorem Entry.stateEvent?_shows (entry : Entry) :
    Option.Rel Event.Shows entry.stateEvent? entry.transition? := by
  cases entry with
  | called call reply => exact .none
  | reported event =>
    cases event with
    | configured before after | stateChanged handle before after => exact .some ⟨rfl, rfl, rfl⟩
    | _ => exact .none

namespace Trace

/-- The transitions that are told, in order. -/
def transitions (entries : List Entry) : List Transition := entries.filterMap Entry.transition?

@[simp] theorem transitions_append (first rest : List Entry) :
    transitions (first ++ rest) = transitions first ++ transitions rest := List.filterMap_append

theorem transitions_reported_of_none {event : Event} (none : event.transition? = none) (rest : List Entry) :
    transitions (.reported event :: rest) = transitions rest := List.filterMap_cons_none none

/-- The events of state, in order. -/
def stateEvents (entries : List Entry) : List Event := entries.filterMap Entry.stateEvent?

theorem stateEvents_show (entries : List Entry) :
    List.Forall₂ Event.Shows (stateEvents entries) (transitions entries) := by
  induction entries with
  | nil => exact .nil
  | cons entry rest ih =>
    have related := entry.stateEvent?_shows
    rw [stateEvents, transitions, List.filterMap_cons, List.filterMap_cons]
    generalize entry.stateEvent? = event, entry.transition? = change at related ⊢
    cases related with
    | none => exact ih
    | some shown => exact .cons shown ih

/-- The transitions are what the events of state show, and nothing else is. -/
theorem stateEvents_show_iff {entries : List Entry} {told : List Transition} :
    List.Forall₂ Event.Shows (stateEvents entries) told ↔ told = transitions entries := by
  constructor
  · exact fun shown => Event.shows_rightUnique.forall₂ shown (stateEvents_show entries)
  · rintro rfl
    exact stateEvents_show entries

end Trace

/-- A program that may report no transition tells none. -/
theorem Program.Reports.unchanging {program : Program α}
    (reports : program.Reports fun event => event.transition? = none) (answers : Answers σ) (state : σ) :
    program.Meets (.answering answers) state fun entries _ _ => Trace.transitions entries = [] := by
  induction program generalizing state with
  | done result => exact rfl
  | log event next ih =>
    refine (ih reports.2 state).mono fun entries _ _ none => ?_
    exact (Trace.transitions_reported_of_none reports.1 entries).trans none
  | call request next ih =>
    exact (meets_call_answering ..).mpr (ih _ (reports _) _)

/-! Chains of transitions. -/

/-- Transitions in a row: the first goes on from one state, each other from where the one before it led, and
the last leads to the other state. -/
inductive Transition.Chain : MountState → List Transition → MountState → Prop where
  | nil {state : MountState} : Chain state [] state
  | cons {before after last : MountState} {rest : List Transition} : Chain after rest last →
      Chain before (⟨before, after⟩ :: rest) last

namespace Transition.Chain

variable {first between last : MountState} {early late : List Transition}

theorem append (left : Chain first early between) (right : Chain between late last) :
    Chain first (early ++ late) last := by
  induction left with
  | nil => exact right
  | cons _ ih => exact .cons (ih right)

/-- Where a chain ends is told by its last transition alone. -/
theorem last_eq (chain : Chain first late last) :
    last = (late.getLast?.map Transition.after).getD first := by
  induction chain with
  | nil => rfl
  | @cons before after last rest _ ih =>
    rw [List.getLast?_cons, Option.map_some, Option.getD_some, ih]
    cases rest.getLast? <;> rfl

end Transition.Chain

/-- The transitions are a chain from the one state to the other, to which the last one leads. -/
def Transition.Leads (first : MountState) (transitions : List Transition) (last : MountState) : Prop :=
  Chain first transitions last ∧ last = (transitions.getLast?.map Transition.after).getD first

theorem Transition.Chain.leads {first last : MountState} {transitions : List Transition}
    (chain : Chain first transitions last) : Leads first transitions last := ⟨chain, chain.last_eq⟩

/-! The transitions of operations. -/

/-- What an operation tells of the state when it succeeds. -/
def Operation.announces (operation : Operation) (before : MountState) : List Transition :=
  match operation with
  | configure _ => if before = .allocated then [⟨.allocated, .configured⟩] else []
  | mount => [⟨before, .mounted⟩]
  | unmount => [⟨before, .unmounted⟩]
  | _ => []

/-- The operation tells of the state what it has to, and nothing if it fails. -/
def Performed.Announces (step : Performed) : Prop :=
  Trace.transitions step.entries = if step.succeeded then step.operation.announces step.before else []

theorem Operation.announces_chain (operation : Operation) (before : MountState) :
    Transition.Chain before (operation.announces before) (operation.advance before) := by
  cases operation with
  | configure setting => cases before <;> first | exact .cons .nil | exact .nil
  | mount | unmount => exact .cons .nil
  | _ => exact .nil

/-- What is announced leads from a fresh mount to a configured one, or to a mounted or unmounted one. -/
theorem Operation.announces_cases {operation : Operation} {before : MountState} {change : Transition}
    (announced : change ∈ operation.announces before) :
    change = ⟨.allocated, .configured⟩ ∨ change.after = .mounted ∨ change.after = .unmounted := by
  unfold announces at announced
  split at announced
  · split at announced
    · exact .inl (List.mem_singleton.mp announced)
    · cases announced
  · exact .inr (.inl (congrArg Transition.after (List.mem_singleton.mp announced)))
  · exact .inr (.inr (congrArg Transition.after (List.mem_singleton.mp announced)))
  · cases announced

namespace Mount

variable (answers : Answers σ)

theorem checked_unchanging (mount : Mount) (request : Request) (state : σ) :
    (mount.checked request).Meets (.answering answers) state fun entries _ _ =>
      Trace.transitions entries = [] :=
  (mount.checked_reports (fun _ _ => rfl) request).unchanging answers state

theorem markConfigured_transitions (mount : Mount) (setting : Setting) (state : σ) :
    mount.markConfigured.Meets (.answering answers) state fun entries _ _ =>
      Trace.transitions entries = (Operation.configure setting).announces mount.state := by
  obtain ⟨handle, tracked⟩ := mount
  cases tracked <;> exact rfl

/-- A step that fails and has told nothing. -/
theorem announces_of_error {operation : Operation} {error : Error} {entries : List Entry}
    {before after : MountState} (unchanging : Trace.transitions entries = []) :
    Performed.Announces ⟨operation, plain (.error error), entries, before, after⟩ :=
  unchanging

theorem configure_announces (mount : Mount) (setting : Setting) (state : σ) :
    (mount.configure setting).Meets (.answering answers) state fun entries result _ =>
      Performed.Announces ⟨.configure setting, plain result.1, entries, mount.state, result.2.state⟩ := by
  unfold configure
  cases setting.request with
  | error offset => exact announces_of_error rfl
  | ok request =>
    refine (Program.meets_bind ..).mpr ((mount.checked_unchanging answers request state).mono ?_)
    intro first outcome between unchanging
    cases outcome with
    | error error => exact announces_of_error (by rw [List.append_nil, unchanging])
    | ok =>
      refine (Program.meets_bind ..).mpr ((mount.markConfigured_transitions answers setting between).mono ?_)
      intro more after _ told
      change Trace.transitions (first ++ (more ++ [])) = _
      rw [Trace.transitions_append, unchanging, List.append_nil]
      exact told

theorem advance_announces (mount : Mount) {operation : Operation} (request : Request)
    (after : MountState) (tells : operation.announces mount.state = [⟨mount.state, after⟩]) (state : σ) :
    (mount.advance request after).Meets (.answering answers) state fun entries result _ =>
      Performed.Announces ⟨operation, plain result.1, entries, mount.state, result.2.state⟩ := by
  refine (Program.meets_bind ..).mpr ((mount.checked_unchanging answers request state).mono ?_)
  intro first outcome between unchanging
  cases outcome with
  | error error => exact announces_of_error (by rw [List.append_nil, unchanging])
  | ok =>
    change Trace.transitions (first ++ [.reported (.stateChanged mount.handle mount.state after)]) =
      operation.announces mount.state
    rw [Trace.transitions_append, unchanging, tells]
    rfl

/-- An operation that does not decide the state tells nothing of it. -/
theorem idle_announces (mount : Mount) {operation : Operation} (undecided : operation.decides = false)
    (state : σ) :
    (mount.perform operation).Meets (.answering answers) state fun entries result _ =>
      Performed.Announces ⟨operation, result.1, entries, mount.state, result.2.state⟩ := by
  have idle : operation.announces mount.state = [] := by
    cases operation with
    | configure _ | mount | unmount => cases undecided
    | _ => rfl
  have unchanging (event : Event) (may : operation.mayReport event = true) : event.transition? = none := by
    cases operation with
    | configure _ | mount | unmount => cases undecided
    | _ => cases event <;> first | rfl | cases may
  refine (((mount.perform_reports operation).mono unchanging).unchanging answers state).mono ?_
  intro entries result _ none
  change Trace.transitions entries = if _ then operation.announces mount.state else []
  rw [none, idle, ite_self]

theorem perform_announces (mount : Mount) (operation : Operation) (state : σ) :
    (mount.perform operation).Meets (.answering answers) state fun entries result _ =>
      Performed.Announces ⟨operation, result.1, entries, mount.state, result.2.state⟩ := by
  have finished {program : Program (Outcome Unit × Mount)}
      (announces : program.Meets (.answering answers) state fun entries result _ =>
        Performed.Announces ⟨operation, plain result.1, entries, mount.state, result.2.state⟩) :
      (program.bind fun result => .done (plain result.1, result.2)).Meets (.answering answers) state
        fun entries result _ =>
          Performed.Announces ⟨operation, result.1, entries, mount.state, result.2.state⟩ := by
    refine (Program.meets_bind ..).mpr (announces.mono fun entries result _ announced => ?_)
    rwa [Program.meets_done, List.append_nil]
  cases operation with
  | configure setting => exact finished (mount.configure_announces answers setting state)
  | mount => exact finished (mount.advance_announces answers _ .mounted rfl state)
  | unmount => exact finished (mount.advance_announces answers _ .unmounted rfl state)
  | _ => exact mount.idle_announces answers rfl state

/-! Creations and ends tell of no transition. -/

theorem allocated_unchanging (call : String) {success : Handle → Event}
    (unchanging : ∀ handle, (success handle).transition? = none) (answer : Except Int32 Handle) :
    (allocated call success answer).Reports fun event => event.transition? = none := by
  cases answer with
  | ok handle => exact ⟨unchanging handle, trivial⟩
  | error code => exact ⟨rfl, trivial⟩

theorem create_unchanging (id : Option String) :
    (create id).Reports fun event => event.transition? = none := by
  unfold create
  split
  · exact trivial
  · exact fun answer => allocated_unchanging _ (fun _ => rfl) answer

theorem fromCluster_unchanging (cluster : Nat) :
    (fromCluster cluster).Reports fun event => event.transition? = none :=
  fun answer => allocated_unchanging _ (fun _ => rfl) answer

end Mount

theorem Event.transition?_of_endsMount {event : Event} (ends : event.endsMount = true) :
    event.transition? = none := by
  cases event <;> first | rfl | cases ends

theorem Ending.program_unchanging (ending : Ending) (mount : Mount) :
    (ending.program mount).Reports fun event => event.transition? = none := by
  cases ending with
  | release => exact mount.release_reports.mono fun _ => Event.transition?_of_endsMount
  | drop =>
    exact (mount.drop_reports.mono fun _ => Event.transition?_of_endsMount).bind fun _ => trivial

/-! Histories and their logs. -/

namespace Performed

/-- The transitions that a history tells. -/
def transitions (history : List Performed) : List Transition :=
  Trace.transitions (history.flatMap Performed.entries)

theorem transitions_append (early late : List Performed) :
    transitions (early ++ late) = transitions early ++ transitions late := by
  rw [transitions, List.flatMap_append, Trace.transitions_append]
  rfl

theorem transitions_singleton (step : Performed) : transitions [step] = Trace.transitions step.entries := by
  rw [transitions, List.flatMap_cons, List.flatMap_nil, List.append_nil]

variable {handle : Handle} {step : Performed} {history : List Performed} {first last : MountState}

/-- One operation takes the state along the transitions that it tells. -/
theorem Follows.chain (follows : step.Follows handle) (announces : step.Announces) :
    Transition.Chain step.before (transitions [step]) step.after := by
  rw [transitions_singleton, announces, follows.advances]
  split
  · exact step.operation.announces_chain step.before
  · exact .nil

theorem Row.chain (row : Row handle first history last) (announce : ∀ step ∈ history, step.Announces) :
    Transition.Chain first (transitions history) last := by
  induction row with
  | nil => exact .nil
  | @cons step rest last follows _ ih =>
    obtain ⟨own, others⟩ := List.forall_mem_cons.mp announce
    rw [← List.singleton_append, transitions_append]
    exact (follows.chain own).append (ih others)

/-- A row up to one of its steps is a row. -/
theorem Row.upTo (row : Row handle first history last) {early late : List Performed}
    (split : history = early ++ step :: late) : Row handle first (early ++ [step]) step.after := by
  induction row generalizing early with
  | nil => exact absurd split.symm (List.append_ne_nil_of_right_ne_nil early (List.cons_ne_nil step late))
  | @cons head rest last follows _ ih =>
    cases early with
    | nil =>
      cases split
      exact .cons follows .nil
    | cons second early =>
      obtain ⟨rfl, tails⟩ := List.cons.inj split
      exact .cons follows (ih tails)

/-- The states around the steps of a row go on from one another. -/
theorem Row.states (row : Row handle first history last) :
    Transition.Chain first (history.map fun step => ⟨step.before, step.after⟩) last := by
  induction row with
  | nil => exact .nil
  | cons _ _ ih => exact .cons ih

/-- What is said of a history from a fresh state by its log: the transitions that were told up to any step
lead to the state behind it, and so do all of them. -/
structure Logged (history : List Performed) (last : MountState) : Prop where
  states : Transition.Chain .allocated (history.map fun step => ⟨step.before, step.after⟩) last
  advances : ∀ step ∈ history, step.after =
    if step.succeeded then step.operation.advance step.before else step.before
  /-- Each step that succeeds tells once of a transition that it has to tell, and no other step does. -/
  announces : ∀ step ∈ history, step.Announces
  around : ∀ early step late, history = early ++ step :: late →
    Transition.Leads .allocated (transitions (early ++ [step])) step.after
  whole : Transition.Leads .allocated (transitions history) last
  targets : ∀ change ∈ transitions history, change = ⟨.allocated, .configured⟩ ∨
    change.after = .mounted ∨ change.after = .unmounted

theorem mem_transitions {change : Transition} (told : change ∈ transitions history) :
    ∃ step ∈ history, change ∈ Trace.transitions step.entries := by
  obtain ⟨entry, member, tells⟩ := List.mem_filterMap.mp told
  obtain ⟨step, performed, inside⟩ := List.mem_flatMap.mp member
  exact ⟨step, performed, List.mem_filterMap.mpr ⟨entry, inside, tells⟩⟩

theorem Row.logged (row : Row handle .allocated history last)
    (announce : ∀ step ∈ history, step.Announces) : Logged history last where
  states := row.states
  advances step member := (row.follows member).advances
  announces := announce
  around early step late split := by
    refine ((row.upTo split).chain fun other member => announce other ?_).leads
    rw [split, ← List.singleton_append, ← List.append_assoc]
    exact List.mem_append_left late member
  whole := (row.chain announce).leads
  targets change told := by
    obtain ⟨step, member, tells⟩ := mem_transitions told
    rw [announce step member] at tells
    split at tells
    · exact Operation.announces_cases tells
    · cases tells

end Performed

/-! Whole lives. -/

/-- What a log has to show of the parts of a life. -/
def Life.Traits.logged : Life.Traits where
  opening entries := Trace.transitions entries = []
  step := Performed.Announces
  dropped mount entries := Trace.transitions entries = [] ∧ mount.DropCalls (Trace.calls entries)

theorem Life.Traits.Hold.logged (answers : Answers σ) : Life.Traits.logged.Hold answers where
  create id state := (Mount.create_unchanging id).unchanging answers state
  fromCluster cluster state := (Mount.fromCluster_unchanging cluster).unchanging answers state
  perform mount operation state := mount.perform_announces answers operation state
  drop mount state :=
    ((mount.drop_reports.mono fun _ => Event.transition?_of_endsMount).unchanging answers state).and
      (mount.drop_calls answers state)

/-- One call is made, and it gives the handle out. -/
def Trace.Gives (handle : Handle) (entries : List Entry) : Prop :=
  ∃ call, calls entries = [call] ∧ call.made? = some handle

/-- How a life goes: a handle is made, steps are taken before and after the caller has the mount, and
the life ends in the state that is tracked then. -/
inductive Life.Goes (life : Life) : List Entry → List Performed → List Performed → List Entry →
    Outcome Life.Outcomes → MountState → Prop where
  /-- No handle is given out. -/
  | unmade {opening : List Entry} {error : Error} : Trace.made opening = [] →
      Goes life opening [] [] [] (.error error) .allocated
  /-- A preparation fails, and what was prepared is dropped. -/
  | dropped {opening last : List Entry} {past : List Performed} {partly : Mount} {error : Error} :
      Trace.Gives partly.handle opening →
      past.map Performed.operation <+: life.creation.settings.map .configure →
      partly.DropCalls (Trace.calls last) →
      Goes life opening past [] last (.error error) partly.state
  | lived {opening last : List Entry} {past history : List Performed} {outcomes : Life.Outcomes} :
      Trace.Gives outcomes.mount.handle opening →
      past.map Performed.operation = life.creation.settings.map .configure →
      history.map Performed.operation = life.operations →
      history.map Performed.outcome = outcomes.operations →
      life.ending.Calls outcomes.mount (Trace.calls last) →
      Goes life opening past history last (.ok outcomes) outcomes.mount.state

/-- The log of a life replays it. -/
def Life.Replays (life : Life) (entries : List Entry) (outcome : Outcome Life.Outcomes) : Prop :=
  ∃ opening past history last tracked,
    entries = opening ++ (past ++ history).flatMap Performed.entries ++ last ∧
      life.Goes opening past history last outcome tracked ∧
      Trace.transitions opening = [] ∧ Trace.transitions last = [] ∧
      Performed.Logged (past ++ history) tracked ∧
      Transition.Leads .allocated (Trace.transitions entries) tracked

theorem Performed.Logged.replays {life : Life} {outcome : Outcome Life.Outcomes}
    {opening last : List Entry} {past history : List Performed} {tracked : MountState}
    (logged : Logged (past ++ history) tracked)
    (goes : life.Goes opening past history last outcome tracked)
    (opened : Trace.transitions opening = []) (ended : Trace.transitions last = []) :
    life.Replays (opening ++ (past ++ history).flatMap Performed.entries ++ last) outcome := by
  refine ⟨opening, past, history, last, tracked, rfl, goes, opened, ended, logged, ?_⟩
  rw [Trace.transitions_append, Trace.transitions_append, opened, ended, List.nil_append, List.append_nil]
  exact logged.whole

theorem Life.program_replays (answers : Answers σ) (life : Life) (state : σ) :
    life.program.Meets (.answering answers) state fun entries outcome _ =>
      life.Replays entries outcome := by
  have hold := Life.Traits.Hold.logged answers
  rw [program, Program.bind_eq_bind, Program.meets_bind]
  apply (life.creation.program_leads answers hold state).mono
  rintro early outcome started ⟨past, leads, prior⟩
  cases leads with
  | @unmade _ error opened none =>
    have row : Performed.Row ⟨0⟩ .allocated [] .allocated := .nil
    have logged : Performed.Logged ([] ++ []) .allocated := row.logged (List.forall_mem_nil _)
    change life.Replays (early ++ []) (.error error)
    simpa using logged.replays (.unmade none) opened rfl
  | @made opening rest call handle _ outcome opened calls made prepared =>
    cases outcome with
    | error error =>
      obtain ⟨taken, during, partly, last, early, rfl, records, ended, drops⟩ := prepared
      have same : partly.handle = handle := records.handle
      have logged : Performed.Logged (past ++ []) partly.state := by
        rw [List.append_nil]
        exact records.row.logged prior
      have goes : life.Goes opening past [] last (.error error) partly.state :=
        .dropped ⟨call, calls, same ▸ made⟩ (records.operations ▸ early) drops
      change life.Replays (opening ++ (during ++ last) ++ []) (.error error)
      simpa [records.entries] using logged.replays goes opened ended
    | ok mount =>
      simp only [Program.bind_eq_bind, Program.meets_bind]
      apply (mount.performAll_traits answers hold life.operations started).mono
      rintro during ⟨given, after⟩ between ⟨history, done, outcomes, own⟩
      apply (((life.ending.program_unchanging after).unchanging answers between).and
        (after.end_calls answers life.ending between)).mono
      rintro last ended _ ⟨silent, ends⟩
      -- What prepared the mount and what the caller did are one history.
      have whole := Mount.Records.append prepared done
      have same : after.handle = handle := whole.handle
      have logged : Performed.Logged (past ++ history) after.state :=
        whole.row.logged (List.forall_mem_append.mpr ⟨prior, own⟩)
      have goes : life.Goes opening past history last (.ok ⟨given, after, ended⟩) after.state :=
        .lived ⟨call, calls, same ▸ made⟩ (Mount.Records.operations prepared) done.operations outcomes
          ends
      change life.Replays (opening ++ rest ++ (during ++ (last ++ []))) (.ok ⟨given, after, ended⟩)
      have replays := logged.replays goes opened silent
      rw [← whole.entries] at replays
      simpa using replays

/-- The events of state in a log, which are known by their message, show in their fields the transitions that
are told, one for one. Whatever the boundary answers, those of a life are the ones of its operations,
those that prepared the mount among them: each goes on from where the one before it led, and after every
operation the last one led to the tracked state. Neither the making of the handle nor the end of the
mount tells of any. -/
theorem Life.log_replays (answers : Answers σ) (life : Life) (state : σ) :
    (∀ entries told,
      List.Forall₂ Event.Shows (Trace.stateEvents entries) told ↔ told = Trace.transitions entries) ∧
      ∃ entries outcome after,
        life.program.run (.answering answers) state = ⟨.ok outcome, entries, after⟩ ∧
          life.Replays entries outcome :=
  ⟨fun _ _ => Trace.stateEvents_show_iff, (life.program_replays answers state).run⟩

end CephMount
