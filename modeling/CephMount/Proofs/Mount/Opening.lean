import CephMount.Proofs.Mount.Ending

/-! The beginning of a mount, over a boundary that may answer anything.

A trace opens a handle when its first entry gives the handle out and the others only use it. Creating
a mount opens its handle or makes none; preparing one keeps to its handle, and drops the mount when a
step fails.
-/

set_option autoImplicit false

namespace CephMount

variable {σ : Type}

namespace Trace

/-- The handle is given out by the first entry, and only used after it. -/
def Opens (handle : Handle) (entries : List Entry) : Prop :=
  ∃ creation rest, entries = creation :: rest ∧ creation.made? = some handle ∧
    creation.handle? = none ∧ ∀ entry ∈ rest, entry.Uses handle

theorem Opens.append {handle : Handle} {opening more : List Entry} (opens : Opens handle opening)
    (uses : ∀ entry ∈ more, entry.Uses handle) : Opens handle (opening ++ more) := by
  obtain ⟨creation, rest, rfl, made, free, used⟩ := opens
  refine ⟨creation, rest ++ more, rfl, made, free, fun entry member => ?_⟩
  exact (List.mem_append.mp member).elim (used entry) (uses entry)

/-- A whole life: an opening, and an end whose calls are those of its kind. -/
def Closes (ending : Ending) (mount : Mount) (entries : List Entry) : Prop :=
  ∃ opening last, entries = opening ++ last ∧ Opens mount.handle opening ∧
    ending.Calls mount (calls last)

end Trace

namespace Mount

variable (answers : Answers σ)

/-- What a creation that only allocates leaves: a fresh mount, or no handle at all. -/
def Allocates (entries : List Entry) : Outcome Mount → Prop
  | .ok mount => Trace.Opens mount.handle entries ∧ mount.state = .allocated
  | .error _ => ∀ entry ∈ entries, entry.made? = none ∧ entry.handle? = none

theorem allocated_allocates {first : Entry} {answer : Except Int32 Handle} (call : String)
    (success : Handle → Event) (state : σ) (made : first.made? = answer.toOption)
    (free : first.handle? = none) :
    (allocated call success answer).Meets (.answering answers) state fun entries outcome _ =>
      Allocates (first :: entries) outcome := by
  cases answer with
  | ok handle =>
    refine ⟨⟨first, _, rfl, made, free, fun entry member => ?_⟩, rfl⟩
    cases List.mem_singleton.mp member
    exact trivial
  | error code =>
    intro entry member
    rcases List.mem_cons.mp member with rfl | member
    · exact ⟨made, free⟩
    · cases List.mem_singleton.mp member
      exact ⟨rfl, rfl⟩

theorem create_allocates (id : Option String) (state : σ) :
    (create id).Meets (.answering answers) state fun entries outcome _ =>
      Allocates entries outcome := by
  unfold create
  split
  · exact fun _ member => nomatch member
  next name accepted =>
    exact (Program.meets_call_answering ..).mpr
      (allocated_allocates answers _ _ _ (Entry.made?_create name _) rfl)

theorem fromCluster_allocates (cluster : Nat) (state : σ) :
    (fromCluster cluster).Meets (.answering answers) state fun entries outcome _ =>
      Allocates entries outcome := by
  exact (Program.meets_call_answering ..).mpr
    (allocated_allocates answers _ _ _ (Entry.made?_createFromCluster cluster _) rfl)

/-- What preparing leaves of a mount: the mount on its handle, or the calls of its drop. -/
def Prepares (mount : Mount) (entries : List Entry) : Outcome Mount → Prop
  | .ok after => mount.SameHolding after ∧ ∀ entry ∈ entries, entry.Uses mount.handle
  | .error _ => ∃ partly before last, entries = before ++ last ∧ mount.SameHolding partly ∧
      (∀ entry ∈ before, entry.Uses mount.handle) ∧ partly.DropCalls (Trace.calls last)

theorem Prepares.after {mount after : Mount} {before entries : List Entry} {outcome : Outcome Mount}
    (prepared : after.Prepares entries outcome) (same : mount.SameHolding after)
    (used : ∀ entry ∈ before, entry.Uses mount.handle) :
    mount.Prepares (before ++ entries) outcome := by
  have joined {more : List Entry} (uses : ∀ entry ∈ more, entry.Uses after.handle) :
      ∀ entry ∈ before ++ more, entry.Uses mount.handle := fun entry member =>
    (List.mem_append.mp member).elim (used entry) fun member => same.1 ▸ uses entry member
  cases outcome with
  | ok last => exact ⟨same.trans prepared.1, joined prepared.2⟩
  | error error =>
    obtain ⟨partly, early, last, rfl, kept, uses, dropped⟩ := prepared
    exact ⟨partly, before ++ early, last, (List.append_assoc ..).symm, same.trans kept, joined uses,
      dropped⟩

theorem prepare_prepares (mount : Mount) (settings : List Setting) (state : σ) :
    (mount.prepare settings).Meets (.answering answers) state fun entries outcome _ =>
      mount.Prepares entries outcome := by
  -- Each step may leave another mount on the handle, so the induction is over all mounts.
  induction settings generalizing mount state with
  | nil => exact ⟨⟨rfl, rfl⟩, fun _ member => nomatch member⟩
  | cons setting rest ih =>
    rw [prepare, Program.bind_eq_bind, Program.meets_bind]
    have configured := ((mount.configure_within setting).widen fun _ => .quiet).uses answers state
    apply configured.mono
    intro before result between holds
    obtain ⟨outcome, after⟩ := result
    obtain ⟨same, used⟩ := holds
    cases outcome with
    | ok =>
      exact (ih after between).mono fun entries outcome _ prepared => prepared.after same used
    | error error =>
      simp only [Program.bind_eq_bind, Program.meets_bind, Program.pure_eq_done, Program.meets_done,
        List.append_nil]
      apply (after.drop_calls answers between).mono
      intro last _ _ dropped
      exact ⟨after, before, last, rfl, same, used, dropped⟩

/-- Preparing makes the requests of its steps, and those of a drop. -/
theorem prepare_calls_within {allowed : Call → Prop} (mount : Mount) (settings : List Setting)
    (configures : ∀ setting request, Setting.request setting = .ok request →
      allowed (.request mount.handle request))
    (unmounts : allowed (.request mount.handle .unmount))
    (releases : allowed (.request mount.handle .release)) :
    (mount.prepare settings).Within allowed fun _ => True := by
  induction settings generalizing mount with
  | nil => exact trivial
  | cons setting rest ih =>
    rw [prepare, Program.bind_eq_bind, Program.within_bind]
    apply (mount.configure_calls setting (configures setting)).mono
    intro result same
    obtain ⟨outcome, after⟩ := result
    obtain ⟨same, -⟩ := same
    change after.handle = mount.handle at same
    rw [← same] at configures unmounts releases
    cases outcome with
    | ok => exact ih after configures unmounts releases
    | error error => exact (Program.within_bind ..).mpr (after.drop_calls_within unmounts releases)

/-- The requests of steps in configuring are quiet. -/
theorem prepare_within {allowed : Call → Prop} (mount : Mount) (settings : List Setting)
    (quiet : ∀ call, call.Quiet mount.handle → allowed call)
    (asks : ∀ call, call.Asks mount.handle → allowed call) :
    (mount.prepare settings).Within allowed fun _ => True :=
  mount.prepare_calls_within settings
    (fun _ _ accepted => quiet _ ⟨rfl, Setting.request_quiet accepted⟩) (asks _ rfl) (asks _ rfl)

end Mount

/-- What an answer to a creation comes to calls nothing. -/
theorem Mount.allocated_within {allowed : Call → Prop} (call : String) (success : Handle → Event)
    (answer : Except Int32 Handle) :
    (Mount.allocated call success answer).Within allowed fun _ => True := by
  cases answer <;> exact trivial

/-- A creation makes a handle, and a preparation configures it or gives it up again. -/
theorem Creation.program_calls_within {allowed : Call → Prop} (creation : Creation)
    (creates : ∀ call, Call.creates call = true → allowed call)
    (configures : ∀ handle setting request, Setting.request setting = .ok request →
      allowed (.request handle request))
    (unmounts : ∀ handle, allowed (.request handle .unmount))
    (releases : ∀ handle, allowed (.request handle .release)) :
    creation.program.Within allowed fun _ => True := by
  have fresh (id : Option String) : (Mount.create id).Within allowed fun _ => True := by
    unfold Mount.create
    split
    · exact trivial
    next name accepted => exact ⟨creates _ rfl, fun answer => Mount.allocated_within _ _ answer⟩
  cases creation with
  | fresh id => exact fresh id
  | derived cluster => exact ⟨creates _ rfl, fun answer => Mount.allocated_within _ _ answer⟩
  | prepared config =>
    refine (Program.within_bind ..).mpr ((fresh config.clientId).mono fun outcome _ => ?_)
    cases outcome with
    | error error => exact trivial
    | ok mount =>
      exact mount.prepare_calls_within config.settings (configures mount.handle) (unmounts mount.handle)
        (releases mount.handle)

/-- What a creation leaves: a mount on the handle that it opened, or an error. Of a handle that was
opened all the same, the error leaves a whole life. -/
def Creation.Leaves (creation : Creation) (entries : List Entry) : Outcome Mount → Prop
  | .ok mount => Trace.Opens mount.handle entries
  | .error _ => (∀ entry ∈ entries, entry.made? = none ∧ entry.handle? = none) ∨
      ∃ config partly, creation = .prepared config ∧ partly.state ≠ .mounted ∧
        Trace.Closes .drop partly entries

theorem Creation.program_leaves (answers : Answers σ) (creation : Creation) (state : σ) :
    creation.program.Meets (.answering answers) state fun entries outcome _ =>
      creation.Leaves entries outcome := by
  have simple {creation : Creation} {entries : List Entry} {outcome : Outcome Mount}
      (allocated : Mount.Allocates entries outcome) : creation.Leaves entries outcome := by
    cases outcome with
    | ok mount => exact allocated.1
    | error error => exact .inl allocated
  cases creation with
  | fresh id => exact (Mount.create_allocates answers id state).mono fun _ _ _ => simple
  | derived cluster => exact (Mount.fromCluster_allocates answers cluster state).mono fun _ _ _ => simple
  | prepared config =>
    rw [Creation.program, Mount.fromConfig, Program.bind_eq_bind, Program.meets_bind]
    apply (Mount.create_allocates answers config.clientId state).mono
    intro early outcome between allocated
    cases outcome with
    | error error => simpa using simple allocated
    | ok mount =>
      obtain ⟨opens, fresh⟩ := allocated
      apply (mount.prepare_prepares answers config.settings between).mono
      intro entries outcome _ prepared
      cases outcome with
      | ok after =>
        change Trace.Opens after.handle _
        rw [prepared.1.1]
        exact opens.append prepared.2
      | error error =>
        obtain ⟨partly, before, last, rfl, same, uses, dropped⟩ := prepared
        -- Configuring mounts nothing, so the drop of what was prepared does not unmount.
        refine .inr ⟨config, partly, rfl, ?_, early ++ before, last,
          (List.append_assoc ..).symm, ?_, dropped⟩
        · intro mounted
          simpa [mounted, fresh, MountState.isMounted] using same.2
        · rw [same.1]
          exact opens.append uses

end CephMount
