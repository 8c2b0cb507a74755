import CephMount.Proofs.InMemory.Operations
import CephMount.Proofs.Mount.Ending

/-! What the end of a mount does to the in-memory library.

A release is refused by a failure that is laid up or by the flag of the handle. A drop comes too late
for a handle that its release leaves live, so whether the handle stays can be told beforehand.
-/

set_option autoImplicit false

namespace CephMount.InMemory

namespace Library

/-- Why the next release of the handle with this record is refused, if it is. -/
def refusal? (library : Library) (record : Record) : Option Int32 :=
  (library.pending? .release).or
    (if record.mounted then some Errno.alreadyConnected.code else none)

/-- The flag of the handle is set, and ending the mount will not clear it: either it is not tracked
as mounted, or a failure is laid up for its unmount. -/
def stuck (library : Library) (mount : Mount) (record : Record) : Bool :=
  record.mounted && (!mount.state.isMounted || (library.pending? .unmount).isSome)

/-- The handle may be gone, which is counted. All that belongs to others stays, and no failure is
laid up. -/
structure Ends (handle : Handle) (before after : Library) : Prop where
  nextHandle : after.nextHandle = before.nextHandle
  others : ∀ other, other ≠ handle → after.record? other = before.record? other
  count : before.liveHandles = after.liveHandles + if after.isLive handle then 0 else 1
  buffers : after.liveBuffers = before.liveBuffers
  spends : Spends before after

variable {library : Library} {handle : Handle} {record : Record} {request : Request}

theorem Keeps.ends {before after : Library} (keeps : Keeps handle before after)
    (live : before.isLive handle = true) : Ends handle before after where
  nextHandle := keeps.nextHandle
  others := keeps.others
  count := by rw [keeps.count, keeps.live, live]; rfl
  buffers := keeps.buffers
  spends := keeps.spends

theorem Ends.after {first second third : Library} (ends : Ends handle second third)
    (keeps : Keeps handle first second) : Ends handle first third where
  nextHandle := ends.nextHandle.trans keeps.nextHandle
  others other apart := (ends.others other apart).trans (keeps.others other apart)
  count := keeps.count ▸ ends.count
  buffers := ends.buffers.trans keeps.buffers
  spends := keeps.spends.trans ends.spends

theorem isLive_of_found (found : library.record? handle = some record) :
    library.isLive handle = true := by
  rw [isLive, found]
  rfl

/-- A release that is refused answers why, and leaves the handle as it was. -/
theorem Serves.release_refused {code reason : Int32} {after : Library}
    (serves : Serves library handle record .release code after)
    (found : library.record? handle = some record) (refused : library.refusal? record = some reason) :
    code = reason ∧ Keeps handle library after ∧ after.record? handle = some record := by
  have kept := (library.record?_charge .release handle).trans found
  cases serves with
  | failed pending =>
    rw [refusal?, pending] at refused
    exact ⟨Option.some.inj refused, .charge library handle .release, kept⟩
  | refused pending served =>
    rw [refusal?, pending, Option.none_or] at refused
    simp only [Record.serve] at served
    split at served
    next mounted =>
      cases served
      rw [if_pos mounted] at refused
      exact ⟨Option.some.inj refused, .charge library handle .release, kept⟩
    · cases served
  | served pending served =>
    rw [refusal?, pending, Option.none_or] at refused
    simp only [Record.serve] at served
    split at served
    · cases served
    next unmounted =>
      rw [if_neg unmounted] at refused
      cases refused

/-- A release that nothing refuses ends the handle. -/
theorem Serves.release_granted {code : Int32} {after : Library}
    (serves : Serves library handle record .release code after)
    (found : library.record? handle = some record) (granted : library.refusal? record = none) :
    code = 0 ∧ Ends handle library after ∧ after.isLive handle = false := by
  rw [refusal?, Option.or_eq_none_iff] at granted
  obtain ⟨none, unmounted⟩ := granted
  cases serves with
  | failed pending => cases pending.symm.trans none
  | refused pending served =>
    simp only [Record.serve] at served
    split at served
    next mounted => rw [if_pos mounted] at unmounted; cases unmounted
    · cases served
  | @served changed _ served =>
    have gone : ((library.charge .release).settle handle .release changed).isLive handle = false := by
      simp [isLive, record?, settle]
    have present : (library.charge .release).records.contains handle.number = true := by
      rw [charge_records, Table.contains, show library.records.get? handle.number = _ from found]
      rfl
    refine ⟨rfl, ?_, gone⟩
    have charged := Keeps.charge library handle .release
    refine ⟨charged.nextHandle, fun other apart => ?_, ?_, charged.buffers, charged.spends⟩
    · have distinct := Handle.number_ne apart
      rw [← charged.others other apart]
      simp [settle, record?, distinct]
    · rw [gone, ← charged.count]
      exact (Table.size_erase_of_contains present).symm

end Library

/-! What can be told beforehand. -/

namespace Library

variable {library : Library} {record : Record}

theorem stuck_iff (library : Library) (mount : Mount) (record : Record) :
    library.stuck mount record = true ↔
      record.mounted = true ∧
        (mount.state ≠ .mounted ∨ library.failures.get? "unmount" ≠ none) := by
  change (record.mounted && (!mount.state == .mounted || (library.failures.get? "unmount").isSome)) =
    true ↔ _
  simp [Option.isSome_iff_ne_none]

/-- Where the mount says what the flag says, only a failure of the unmount keeps the flag. -/
theorem unmount_pending_of_stuck {mount : Mount} (found : library.record? mount.handle = some record)
    (agrees : Agrees mount library) (stuck : library.stuck mount record = true) :
    (library.failures.get? "unmount").isSome := by
  rw [Agrees, flag?, found] at agrees
  have same : record.mounted = mount.state.isMounted := Option.some.inj agrees
  rw [Library.stuck, same] at stuck
  cases tracked : mount.state.isMounted with
  | false =>
    rw [tracked] at stuck
    cases stuck
  | true =>
    rw [tracked] at stuck
    exact stuck

end Library

/-! Drop. -/

namespace Library

variable {library : Library} {record : Record}

theorem dropUnmount_meets (mount : Mount) (found : library.record? mount.handle = some record) :
    mount.dropUnmount.Meets discipline library fun _ _ after =>
      Keeps mount.handle library after ∧
        after.flag? mount.handle = some (record.mounted && (library.pending? .unmount).isSome) ∧
        after.pending? .release = library.pending? .release := by
  obtain ⟨code, after, answered, serves⟩ :=
    request_serves .unmount found (fun _ => Request.noConfusion)
  refine ⟨fun _ onHandle => Option.some.inj onHandle ▸ isLive_of_found found, code, after, answered, ?_⟩
  apply (mount.reportUnmounted_meets code after).mono
  intro _ _ last silent
  obtain ⟨-, rfl⟩ := silent
  refine ⟨serves.keeps found Request.noConfusion, ?_, serves.pending? .release⟩
  rw [serves.flag?_set (show setsFlag? .unmount = some false from rfl) found]
  cases (library.pending? .unmount).isSome <;> simp

theorem dropRelease_meets (mount : Mount) (found : library.record? mount.handle = some record) :
    mount.dropRelease.Meets discipline library fun _ _ after =>
      Ends mount.handle library after ∧
        after.isLive mount.handle = (library.refusal? record).isSome := by
  obtain ⟨code, after, answered, serves⟩ :=
    request_serves .release found (fun _ => Request.noConfusion)
  have live := isLive_of_found found
  refine ⟨fun _ onHandle => Option.some.inj onHandle ▸ live, code, after, answered, ?_⟩
  apply (mount.reportReleased_meets code after).mono
  intro _ _ last silent
  obtain ⟨-, rfl⟩ := silent
  cases refused : library.refusal? record with
  | none =>
    obtain ⟨-, ends, gone⟩ := serves.release_granted found refused
    exact ⟨ends, gone⟩
  | some reason =>
    obtain ⟨-, keeps, same⟩ := serves.release_refused found refused
    exact ⟨keeps.ends live, isLive_of_found same⟩

/-- A drop leaves the handle live exactly if a failure is laid up for its release, or its flag is
stuck. -/
theorem drop_meets (mount : Mount) (found : library.record? mount.handle = some record) :
    mount.drop.Meets discipline library fun _ _ after =>
      Ends mount.handle library after ∧
        after.isLive mount.handle =
          ((library.pending? .release).isSome || library.stuck mount record) := by
  rw [Mount.drop_eq]
  by_cases mounted : mount.state = .mounted
  · rw [if_pos mounted, Program.meets_bind]
    apply (dropUnmount_meets mount found).mono
    intro _ _ between unmounted
    obtain ⟨keeps, flag, pending⟩ := unmounted
    -- The release is judged by the flag that the unmount left.
    obtain ⟨changed, present, flagIs⟩ := Option.map_eq_some_iff.mp flag
    apply (dropRelease_meets mount present).mono
    intro _ _ after released
    obtain ⟨ends, stays⟩ := released
    refine ⟨ends.after keeps, ?_⟩
    rw [stays, refusal?, pending, flagIs, stuck, mounted]
    cases library.pending? .release <;> cases record.mounted <;>
      cases library.pending? .unmount <;> rfl
  · rw [if_neg mounted]
    apply (dropRelease_meets mount found).mono
    intro _ _ after released
    obtain ⟨ends, stays⟩ := released
    refine ⟨ends, ?_⟩
    have untracked : mount.state.isMounted = false := by
      rw [MountState.isMounted, beq_eq_false_iff_ne]
      exact mounted
    rw [stays, refusal?, stuck, untracked]
    cases library.pending? .release <;> cases record.mounted <;> rfl

/-! Release. -/

/-- What a release gives its caller. -/
def releaseOutcome (library : Library) (record : Record) : Outcome Unit :=
  match library.refusal? record with
  | none => .ok ()
  | some code => .error (.library ⟨code⟩)

theorem releaseOutcome_of_pending {code : Int32} (record : Record)
    (pending : library.failures.get? "release" = some code) :
    library.releaseOutcome record = .error (.library ⟨code⟩) := by
  rw [releaseOutcome, refusal?, show library.pending? .release = _ from pending, Option.some_or]

theorem releaseOutcome_of_none (none : library.failures.get? "release" = .none) :
    library.releaseOutcome record =
      if record.mounted then .error (.library ⟨Errno.alreadyConnected.code⟩) else .ok () := by
  rw [releaseOutcome, refusal?, show library.pending? .release = _ from none, Option.none_or]
  cases record.mounted <;> rfl

/-- A release keeps the first refusal for its caller, and is followed by a drop that no failure of a
release can stop any more. -/
theorem release_meets (mount : Mount) (found : library.record? mount.handle = some record) :
    mount.release.Meets discipline library fun _ outcome after =>
      Ends mount.handle library after ∧
        (library.FailuresFail → outcome = library.releaseOutcome record ∧
          after.isLive mount.handle = library.stuck mount record) := by
  obtain ⟨code, between, answered, serves⟩ :=
    request_serves .release found (fun _ => Request.noConfusion)
  have live := isLive_of_found found
  rw [Mount.release_eq]
  refine ⟨fun _ onHandle => Option.some.inj onHandle ▸ live, code, between, answered, ?_⟩
  change (if code = 0 then _ else _ : Program _).Meets _ _ _
  cases refused : library.refusal? record with
  | none =>
    obtain ⟨rfl, ends, gone⟩ := serves.release_granted found refused
    refine ⟨ends, fun _ => ⟨by rw [releaseOutcome, refused], ?_⟩⟩
    rw [refusal?, Option.or_eq_none_iff] at refused
    have unmounted : record.mounted = false := by
      cases mounted : record.mounted with
      | false => rfl
      | true =>
        rw [mounted] at refused
        cases refused.2
    rw [gone, stuck, unmounted, Bool.false_and]
  | some reason =>
    obtain ⟨rfl, keeps, same⟩ := serves.release_refused found refused
    by_cases lied : code = 0
    · -- A failure of code zero looks like success, and nobody tries again.
      subst lied
      refine ⟨keeps.ends live, fun fail => ?_⟩
      rw [refusal?] at refused
      cases pending : library.pending? .release with
      | none =>
        rw [pending, Option.none_or] at refused
        split at refused
        · cases refused
        · cases refused
      | some failure =>
        rw [pending] at refused
        cases refused
        exact absurd pending fail.pending?_ne
    · rw [if_neg lied]
      simp only [Program.meets_log, Program.meets_bind, Program.meets_done]
      apply (drop_meets mount same).mono
      intro _ _ after dropped
      obtain ⟨ends, stays⟩ := dropped
      -- The first attempt took the failure of a release and no other.
      have none : between.pending? .release = none := serves.pending? .release
      have unmount : between.pending? .unmount = library.pending? .unmount := serves.pending? .unmount
      refine ⟨ends.after keeps, fun _ => ⟨by rw [releaseOutcome, refused], ?_⟩⟩
      rw [stays, none, stuck, unmount]
      rfl

end Library

end CephMount.InMemory
