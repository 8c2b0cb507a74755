import CephMount.Proofs.Mount.Requests

/-! How a mount is prepared by a configuration, over a boundary that may answer anything.

Main statement: the steps are taken in order up to the first that cannot cross or is refused. With all
of them taken the mount is given, and otherwise its handle is released once and the error is that of
the step that stopped.
-/

set_option autoImplicit false

namespace CephMount

variable {σ : Type}

/-! What a configuration asks for, told from its fields. -/

namespace MountConfig

/-- The file is read if one is to be read at all, and is the default one unless it is named. -/
def fileSteps (config : MountConfig) : List Setting :=
  match config.readConfig, config.configFile with
  | false, _ => []
  | true, none => [.defaultConfig]
  | true, some path => [.configFile path]

def variableSteps (config : MountConfig) : List Setting :=
  match config.parseEnv with
  | none => []
  | some name => [.environment (some name)]

/-- Every option is set once, in ascending order of the names. -/
def OptionSteps (config : MountConfig) (steps : List Setting) : Prop :=
  ∃ pairs : List (String × String), steps = pairs.map (fun pair => .option pair.1 pair.2) ∧
    pairs.Pairwise (fun first second => first.1 < second.1) ∧
    ∀ key value, (key, value) ∈ pairs ↔ config.options.get? key = some value

/-- The steps in order: the file, the variable, and the options. -/
def Plans (config : MountConfig) (plan : List Setting) : Prop :=
  ∃ options, config.OptionSteps options ∧ plan = config.fileSteps ++ config.variableSteps ++ options

theorem plans_settings (config : MountConfig) : config.Plans config.settings := by
  refine ⟨_, ⟨config.options.entries, rfl, ?_, fun _ _ => Table.mem_entries_iff⟩, ?_⟩
  · exact config.options.ordered.imp compareOfLessAndEq_eq_lt.mp
  · obtain ⟨id, file, read, name, options⟩ := config
    cases read <;> cases file <;> cases name <;> rfl

end MountConfig

/-! One step after the other. -/

/-- Steps that were granted, each with its request. -/
def Setting.Granted (done : List (Setting × Request)) : Prop :=
  ∀ pair ∈ done, pair.1.Asks pair.2

/-- The calls of steps that were granted. -/
def Handle.granted (handle : Handle) (done : List (Setting × Request)) : List Entry :=
  done.map fun pair => .called (.request handle pair.2) (0 : Int32)

/-- The step ends the preparation: its call is refused, or it cannot be made. -/
inductive Setting.Stops (handle : Handle) (step : Setting) : List Entry → Error → Prop where
  | refused {request : Request} {code : Int32} : step.Asks request → code ≠ 0 →
      Stops handle step [.called (.request handle request) code] (.library ⟨code⟩)
  | broken {offset : Nat} : step.BrokenAt offset → Stops handle step [] (.interiorNul offset)

/-- All that taking steps with a mount can come to. -/
inductive Mount.Takes (mount : Mount) (steps : List Setting) : List Entry → Outcome Mount → Prop where
  | all {done : List (Setting × Request)} : steps = done.map Prod.fst → Setting.Granted done →
      Takes mount steps (mount.handle.granted done)
        (.ok ⟨mount.handle,
          if done.isEmpty then mount.state else mount.state.afterConfigure⟩)
  | stopped {done : List (Setting × Request)} {step : Setting} {rest : List Setting}
      {calls : List Entry} {error : Error} {answer : Int32} :
      steps = done.map Prod.fst ++ step :: rest → Setting.Granted done →
      step.Stops mount.handle calls error →
      Takes mount steps
        (mount.handle.granted done ++ calls ++ [.called (.request mount.handle .release) answer])
        (.error error)

theorem MountState.afterConfigure_idem (state : MountState) :
    state.afterConfigure.afterConfigure = state.afterConfigure := by
  cases state <;> rfl

/-- A step that is granted goes before all that comes after it. -/
theorem Mount.Takes.after {mount : Mount} {step : Setting} {request : Request} {steps : List Setting}
    {calls : List Entry} {outcome : Outcome Mount} (asks : step.Asks request)
    (takes : Mount.Takes { mount with state := mount.state.afterConfigure } steps calls outcome) :
    mount.Takes (step :: steps) (mount.asked request 0 :: calls) outcome := by
  have longer {done : List (Setting × Request)} (granted : Setting.Granted done) :
      Setting.Granted ((step, request) :: done) := fun pair member =>
    (List.mem_cons.mp member).elim (fun same => same ▸ asks) (granted pair)
  cases takes with
  | @all done split granted =>
    have settled : (if done.isEmpty then mount.state.afterConfigure
        else mount.state.afterConfigure.afterConfigure) = mount.state.afterConfigure := by
      rw [MountState.afterConfigure_idem, ite_self]
    rw [settled]
    exact .all (congrArg (List.cons step) split) (longer granted)
  | stopped split granted stops =>
    exact .stopped (congrArg (List.cons step) split) (longer granted) stops

namespace Mount

variable (answers : Answers σ)

/-- The drop of a mount that is not mounted releases its handle once, and calls nothing else. -/
theorem drop_releases (mount : Mount) (unmounted : mount.state ≠ .mounted) (state : σ) :
    mount.drop.Meets (.answering answers) state fun entries _ _ =>
      ∃ answer, Trace.calls entries = [mount.asked .release answer] := by
  apply (mount.drop_calls answers state).mono
  intro entries _ _ dropped
  rwa [DropCalls, if_neg unmounted] at dropped

/-- The first step stops: the mount is dropped, and the error of the step is given. -/
theorem stop_takes (mount : Mount) (unmounted : mount.state ≠ .mounted) {step : Setting}
    {rest : List Setting} {entries calls : List Entry} {error : Error}
    (called : Trace.calls entries = calls) (stops : step.Stops mount.handle calls error) (state : σ) :
    (mount.drop.bind fun () => .done (.error error)).Meets (.answering answers) state
      fun more outcome _ => mount.Takes (step :: rest) (Trace.calls (entries ++ more)) outcome := by
  refine (Program.meets_bind ..).mpr ((mount.drop_releases answers unmounted state).mono ?_)
  intro dropped _ _ released
  obtain ⟨answer, released⟩ := released
  have none : Setting.Granted [] := fun _ member => nomatch member
  rw [Program.meets_done, List.append_nil, Trace.calls_append, called, released]
  exact .stopped rfl none stops

theorem prepare_takes (mount : Mount) (unmounted : mount.state ≠ .mounted) (steps : List Setting)
    (state : σ) :
    (mount.prepare steps).Meets (.answering answers) state fun entries outcome _ =>
      mount.Takes steps (Trace.calls entries) outcome := by
  -- A step may change the state that is tracked, so the induction is over all mounts.
  induction steps generalizing mount state with
  | nil =>
    have none : Setting.Granted [] := fun _ member => nomatch member
    exact .all rfl none
  | cons step rest ih =>
    rw [prepare, Program.bind_eq_bind, Program.meets_bind]
    apply (mount.configure_meets answers step state).mono
    intro entries result between configures
    generalize called : Trace.calls entries = calls at configures
    cases configures with
    | granted asks =>
      have still : mount.state.afterConfigure ≠ .mounted := by
        cases tracked : mount.state <;> simp_all [MountState.afterConfigure]
      apply (ih { mount with state := mount.state.afterConfigure } still between).mono
      intro more outcome _ takes
      rw [Trace.calls_append, called]
      exact takes.after asks
    | refused asks failed => exact mount.stop_takes answers unmounted called (.refused asks failed) between
    | broken broken => exact mount.stop_takes answers unmounted called (.broken broken) between

end Mount

/-- All that making a mount by a configuration can come to: what is called, and what is given. -/
inductive MountConfig.Applies (config : MountConfig) : List Entry → Outcome Mount → Prop where
  /-- The name of the client holds a NUL, so nothing is called. -/
  | unnamed {id : String} {offset : Nat} : config.clientId = some id →
      NulAt (Utf8.encode id) offset → Applies config [] (.error (.interiorNul offset))
  /-- No handle is given out, so none is released. -/
  | unmade {name : Option Terminated} {code : Int32} :
      Option.Rel (fun text string => string.Spells text) config.clientId name →
      Applies config [.called (.create name) (.error code)]
        (.error (.library ⟨if code = 0 then Errno.inputOutput.code else code⟩))
  /-- The steps before one that stops were granted, and the handle is released once. -/
  | stopped {name : Option Terminated} {handle : Handle} {done : List (Setting × Request)}
      {step : Setting} {rest : List Setting} {calls : List Entry} {error : Error} {answer : Int32} :
      Option.Rel (fun text string => string.Spells text) config.clientId name →
      config.Plans (done.map Prod.fst ++ step :: rest) → Setting.Granted done →
      step.Stops handle calls error →
      Applies config (.called (.create name) (.ok handle) :: handle.granted done ++ calls ++
        [.called (.request handle .release) answer]) (.error error)
  | applied {name : Option Terminated} {handle : Handle} {done : List (Setting × Request)} :
      Option.Rel (fun text string => string.Spells text) config.clientId name →
      config.Plans (done.map Prod.fst) → Setting.Granted done →
      Applies config (.called (.create name) (.ok handle) :: handle.granted done)
        (.ok ⟨handle, if done.isEmpty then .allocated else .configured⟩)

/-- Whatever the boundary answers, a configuration is applied in order and as a whole, or not at all. -/
theorem Mount.fromConfig_applies (answers : Answers σ) (config : MountConfig) (state : σ) :
    ∃ entries outcome after,
      (fromConfig config).run (.answering answers) state = ⟨.ok outcome, entries, after⟩ ∧
        config.Applies (Trace.calls entries) outcome := by
  have meets : (fromConfig config).Meets (.answering answers) state fun entries outcome _ =>
      config.Applies (Trace.calls entries) outcome := by
    rw [fromConfig, Program.bind_eq_bind, Program.meets_bind]
    apply (create_meets answers config.clientId state).mono
    rintro opening _ between (⟨name, answer, named, calls, rfl⟩ | ⟨id, offset, held, nul, silent, rfl⟩)
    · cases answer with
      | error code =>
        simpa [allocation, calls] using MountConfig.Applies.unmade named
      | ok handle =>
        have unmounted : MountState.allocated ≠ .mounted := by decide
        apply (prepare_takes answers ⟨handle, .allocated⟩ unmounted config.settings between).mono
        intro entries outcome _ takes
        rw [Trace.calls_append, calls]
        generalize Trace.calls entries = rest at takes
        have plans := config.plans_settings
        cases takes with
        | all split granted =>
          rw [split] at plans
          exact .applied named plans granted
        | stopped split granted stops =>
          rw [split] at plans
          simpa using MountConfig.Applies.stopped named plans granted stops
    · simpa [silent] using MountConfig.Applies.unnamed held nul
  exact meets.run

end CephMount
