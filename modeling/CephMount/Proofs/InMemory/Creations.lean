import CephMount.Proofs.InMemory.Endings
import CephMount.Proofs.Mount.Opening

/-! What making a mount does to the in-memory library.

Every handle that is given out bears the next number, so it was never given out before. A preparation
that fails leaves its handle live only if a failure is laid up for the release.
-/

set_option autoImplicit false

namespace CephMount.InMemory

namespace Library

/-- Live handles bear numbers that have been given out. -/
def Numbered (library : Library) : Prop :=
  ∀ handle, library.isLive handle = true → handle.number < library.nextHandle

/-- The handle is new, and may be gone again. All that belongs to others stays. -/
structure Creates (handle : Handle) (before after : Library) : Prop where
  number : handle.number = before.nextHandle
  nextHandle : after.nextHandle = before.nextHandle + 1
  others : ∀ other, other ≠ handle → after.record? other = before.record? other
  count : after.liveHandles = before.liveHandles + if after.isLive handle then 1 else 0
  buffers : after.liveBuffers = before.liveBuffers
  spends : Spends before after

variable {library : Library} {handle : Handle} {record : Record}

theorem Creates.ends {first second third : Library} (creates : Creates handle first second)
    (live : second.isLive handle = true) (ends : Ends handle second third) :
    Creates handle first third where
  number := creates.number
  nextHandle := ends.nextHandle.trans creates.nextHandle
  others other apart := (ends.others other apart).trans (creates.others other apart)
  count := by
    have born := creates.count
    have counted := ends.count
    rw [live, if_pos rfl] at born
    rw [born] at counted
    cases stays : third.isLive handle with
    | false =>
      rw [stays] at counted
      exact (Nat.succ.inj counted).symm
    | true =>
      rw [stays] at counted
      exact counted.symm
  buffers := ends.buffers.trans creates.buffers
  spends := creates.spends.trans ends.spends

/-- What a creation leaves of the library: a mount on a new handle that is not mounted, or an error.
With an error, either nothing was made, or what was made is gone unless its release was to fail. -/
def Created (before : Library) (entries : List Entry) : Outcome Mount → Library → Prop
  | .ok mount, after => Creates mount.handle before after ∧ after.flag? mount.handle = some false ∧
      mount.state.isMounted = false ∧ Trace.made entries = [mount.handle]
  | .error _, after => ((∀ handle, Keeps handle before after) ∧ Trace.made entries = []) ∨
      ∃ handle, Creates handle before after ∧ Trace.made entries = [handle] ∧
        (after.isLive handle = true → (before.pending? .release).isSome)

theorem Created.spends {before after : Library} {entries : List Entry} {outcome : Outcome Mount}
    (created : Created before entries outcome after) : Spends before after := by
  cases outcome with
  | ok mount => exact created.1.spends
  | error error =>
    rcases created with ⟨keeps, -⟩ | ⟨handle, creates, -, -⟩
    · exact (keeps ⟨0⟩).spends
    · exact creates.spends

def Makes (before : Library) : Except Int32 Handle → Library → Prop
  | .ok handle, after => Creates handle before after ∧ after.flag? handle = some false
  | .error _, after => ∀ handle, Keeps handle before after

theorem create_makes (name : String) (record : Record) (numbered : library.Numbered)
    (unmounted : record.mounted = false) :
    Makes library (library.create name record).1 (library.create name record).2 := by
  unfold create takeFailure
  cases library.failures.get? name with
  | some code => exact fun handle => ⟨rfl, fun _ _ => rfl, rfl, rfl, rfl, fun _ _ => Table.get?_of_erase⟩
  | none =>
    -- A record under the next number would belong to a live handle that was never given out.
    have absent : library.records.get? library.nextHandle = none := by
      cases found : library.records.get? library.nextHandle with
      | none => rfl
      | some record =>
        have live := numbered ⟨library.nextHandle⟩ (isLive_of_found found)
        exact absurd live (Nat.lt_irrefl _)
    refine ⟨⟨rfl, rfl, fun other apart => ?_, ?_, rfl, fun _ _ => Table.get?_of_erase⟩, ?_⟩
    · have distinct : other.number ≠ library.nextHandle := Handle.number_ne apart
      simp [newHandle, record?, distinct]
    · have size := Table.size_insert_of_absent record absent
      simp [newHandle, liveHandles, isLive, record?, size]
    · simp [newHandle, flag?, record?, unmounted]

theorem allocated_meets {first : Entry} {reply : Except Int32 Handle} {after : Library}
    (call : String) (success : Handle → Event) (makes : Makes library reply after)
    (made : first.made? = reply.toOption) :
    (Mount.allocated call success reply).Meets discipline after fun entries outcome last =>
      Created library (first :: entries) outcome last := by
  cases reply with
  | error code => exact .inl ⟨makes, by rw [Trace.made_cons, made]; rfl⟩
  | ok handle => exact ⟨makes.1, makes.2, rfl, by rw [Trace.made_cons, made]; rfl⟩

theorem create_meets (id : Option String) (numbered : library.Numbered) :
    (Mount.create id).Meets discipline library fun entries outcome after =>
      Created library entries outcome after := by
  unfold Mount.create
  split
  · exact .inl ⟨fun handle => .refl handle library, rfl⟩
  next name accepted =>
    have makes := create_makes "create" (.new (name.map Terminated.text) none) numbered rfl
    refine ⟨fun _ onHandle => (nomatch onHandle), _, _, rfl, ?_⟩
    exact allocated_meets _ _ makes (Entry.made?_create name _)

theorem fromCluster_meets (cluster : Nat) (numbered : library.Numbered) :
    (Mount.fromCluster cluster).Meets discipline library fun entries outcome after =>
      Created library entries outcome after := by
  have makes := create_makes "create_from_cluster" (.new none (some cluster)) numbered rfl
  refine ⟨fun _ onHandle => (nomatch onHandle), _, _, rfl, ?_⟩
  exact allocated_meets _ _ makes (Entry.made?_createFromCluster cluster _)

def Prepared (mount : Mount) (before : Library) : Outcome Mount → Library → Prop
  | .ok last, after => mount.SameHolding last ∧ Keeps mount.handle before after ∧
      after.flag? mount.handle = before.flag? mount.handle
  | .error _, after => Ends mount.handle before after ∧
      (before.flag? mount.handle = some false → after.isLive mount.handle = true →
        (before.pending? .release).isSome)

theorem prepare_meets (mount : Mount) (settings : List Setting)
    (live : library.isLive mount.handle = true) :
    (mount.prepare settings).Meets discipline library fun _ outcome after =>
      Prepared mount library outcome after := by
  induction settings generalizing mount library with
  | nil => exact ⟨⟨rfl, rfl⟩, .refl _ _, rfl⟩
  | cons setting rest ih =>
    rw [Mount.prepare, Program.bind_eq_bind, Program.meets_bind]
    apply (quiet_meets (mount.configure_within setting) live).mono
    intro _ result between holds
    obtain ⟨outcome, next⟩ := result
    obtain ⟨same, keeps, flag⟩ := holds
    have alive : between.isLive next.handle = true := by
      rw [show next.handle = mount.handle from same.1, keeps.live, live]
    cases outcome with
    | ok =>
      apply (ih next alive).mono
      intro _ outcome after prepared
      cases outcome with
      | ok last =>
        obtain ⟨holding, kept, flagKept⟩ := prepared
        rw [show next.handle = mount.handle from same.1] at kept flagKept
        exact ⟨same.trans holding, keeps.trans kept, flagKept.trans flag⟩
      | error error =>
        obtain ⟨ends, stays⟩ := prepared
        rw [show next.handle = mount.handle from same.1] at ends stays
        exact ⟨ends.after keeps, fun lowered alive => keeps.spends.pending (stays (flag.trans lowered) alive)⟩
    | error error =>
      obtain ⟨record, found⟩ := Option.isSome_iff_exists.mp alive
      simp only [Program.bind_eq_bind, Program.meets_bind, Program.pure_eq_done, Program.meets_done]
      apply (drop_meets next found).mono
      intro _ _ after dropped
      obtain ⟨ends, stays⟩ := dropped
      rw [show next.handle = mount.handle from same.1] at ends stays found
      -- No step of a preparation sets the flag, so the flag is not what keeps the handle.
      refine ⟨ends.after keeps, fun lowered alive => ?_⟩
      have unmounted : record.mounted = false := by
        rw [← flag, flag?, found] at lowered
        exact Option.some.inj lowered
      rw [alive, stuck, unmounted, Bool.false_and, Bool.or_false] at stays
      exact keeps.spends.pending stays.symm

theorem creation_meets (creation : Creation) (numbered : library.Numbered) :
    creation.program.Meets discipline library fun entries outcome after =>
      Created library entries outcome after := by
  cases creation with
  | fresh id => exact create_meets id numbered
  | derived cluster => exact fromCluster_meets cluster numbered
  | prepared config =>
    rw [Creation.program, Mount.fromConfig, Program.bind_eq_bind, Program.meets_bind]
    apply (create_meets config.clientId numbered).mono
    intro early outcome between created
    cases outcome with
    | error error => simpa using created
    | ok mount =>
      obtain ⟨creates, lowered, unmounted, made⟩ := created
      have live : between.isLive mount.handle = true := by
        obtain ⟨record, found, -⟩ := Option.map_eq_some_iff.mp lowered
        exact isLive_of_found found
      have prepares := (prepare_meets mount config.settings live).makesNone
        (mount.prepare_within config.settings (fun _ quiet => (Call.Uses.quiet quiet).creates)
          fun _ asks => asks.creates)
      apply prepares.mono
      intro entries outcome after left
      obtain ⟨prepared, unmade⟩ := left
      have only : Trace.made (early ++ entries) = [mount.handle] := by
        rw [Trace.made_append, made, unmade, List.append_nil]
      cases outcome with
      | ok last =>
        obtain ⟨⟨same, tracked⟩, keeps, flag⟩ := prepared
        rw [Created, same]
        exact ⟨creates.ends live (keeps.ends live), flag.trans lowered, tracked.trans unmounted, only⟩
      | error error =>
        obtain ⟨ends, stays⟩ := prepared
        refine .inr ⟨mount.handle, creates.ends live ends, only, fun alive => ?_⟩
        exact creates.spends.pending (stays lowered alive)

/-! What anything at all does to the live handles. -/

/-- Numbers go up, and only what has just been given out becomes live. -/
structure Advances (made : List Handle) (before after : Library) : Prop where
  onward : before.nextHandle ≤ after.nextHandle
  once : made.Nodup
  fresh : ∀ handle ∈ made, before.nextHandle ≤ handle.number ∧ handle.number < after.nextHandle
  live : ∀ handle, after.isLive handle = true → before.isLive handle = true ∨ handle ∈ made

namespace Advances

theorem trans {first second third : Library} {made more : List Handle}
    (left : Advances made first second) (right : Advances more second third) :
    Advances (made ++ more) first third where
  onward := Nat.le_trans left.onward right.onward
  once := by
    refine List.nodup_append.mpr ⟨left.once, right.once, fun handle early other late same => ?_⟩
    subst same
    exact Nat.not_lt.mpr (right.fresh handle late).1 (left.fresh handle early).2
  fresh handle member := by
    rcases List.mem_append.mp member with early | late
    · exact ⟨(left.fresh handle early).1, Nat.lt_of_lt_of_le (left.fresh handle early).2 right.onward⟩
    · exact ⟨Nat.le_trans left.onward (right.fresh handle late).1, (right.fresh handle late).2⟩
  live handle alive := by
    rcases right.live handle alive with between | late
    · exact (left.live handle between).imp_right (List.mem_append_left more)
    · exact .inr (List.mem_append_right made late)

theorem numbered {before after : Library} {made : List Handle} (advances : Advances made before after)
    (numbered : before.Numbered) : after.Numbered := by
  intro handle alive
  rcases advances.live handle alive with earlier | new
  · exact Nat.lt_of_lt_of_le (numbered handle earlier) advances.onward
  · exact (advances.fresh handle new).2

/-- A handle that was given out before and is dead stays so. -/
theorem dead {before after : Library} {made : List Handle} (advances : Advances made before after)
    (given : handle.number < before.nextHandle) (dead : before.isLive handle = false) :
    after.isLive handle = false := by
  cases alive : after.isLive handle with
  | false => rfl
  | true =>
    rcases advances.live handle alive with earlier | new
    · exact earlier.symm.trans dead
    · exact absurd given (Nat.not_lt.mpr (advances.fresh handle new).1)

/-- Nothing is made where the numbers stay and no handle becomes live. -/
theorem of_kept {before after : Library} (number : after.nextHandle = before.nextHandle)
    (kept : ∀ handle, after.isLive handle = true → before.isLive handle = true) :
    Advances [] before after where
  onward := Nat.le_of_eq number.symm
  once := List.nodup_nil
  fresh _ member := nomatch member
  live handle alive := .inl (kept handle alive)

end Advances

theorem isLive_of_same {before after : Library}
    (others : ∀ other, other ≠ handle → after.record? other = before.record? other)
    {other : Handle} (apart : other ≠ handle) : after.isLive other = before.isLive other := by
  rw [isLive, isLive, others other apart]

theorem flag?_of_same {before after : Library}
    (others : ∀ other, other ≠ handle → after.record? other = before.record? other)
    {other : Handle} (apart : other ≠ handle) : after.flag? other = before.flag? other := by
  rw [flag?, flag?, others other apart]

theorem Ends.advances {before after : Library} (ends : Ends handle before after)
    (live : before.isLive handle = true) : Advances [] before after := by
  refine .of_kept ends.nextHandle fun other alive => ?_
  by_cases same : other = handle
  · exact same ▸ live
  · exact isLive_of_same ends.others same ▸ alive

theorem Creates.advances {before after : Library} (creates : Creates handle before after) :
    Advances [handle] before after where
  onward := by rw [creates.nextHandle]; exact Nat.le_succ _
  once := List.nodup_cons.mpr ⟨List.not_mem_nil, List.nodup_nil⟩
  fresh other member := by
    rw [List.mem_singleton.mp member, creates.number, creates.nextHandle]
    exact ⟨Nat.le_refl _, Nat.lt_succ_self _⟩
  live other alive := by
    by_cases same : other = handle
    · exact .inr (List.mem_singleton.mpr same)
    · exact .inl (isLive_of_same creates.others same ▸ alive)

theorem Created.advances {before after : Library} {entries : List Entry} {outcome : Outcome Mount}
    (created : Created before entries outcome after) :
    Advances (Trace.made entries) before after := by
  cases outcome with
  | ok mount =>
    obtain ⟨creates, -, -, made⟩ := created
    exact made ▸ creates.advances
  | error error =>
    rcases created with ⟨keeps, made⟩ | ⟨handle, creates, made, -⟩
    · rw [made]
      exact .of_kept (keeps ⟨0⟩).nextHandle fun handle alive => (keeps handle).live ▸ alive
    · exact made ▸ creates.advances

end Library

end CephMount.InMemory
