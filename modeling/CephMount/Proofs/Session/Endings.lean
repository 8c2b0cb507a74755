import CephMount.Proofs.Session.Agreement

/-! How mounts end in a session whose failures are failures.

What a release gives, and whether the handle is still live after a release or a drop, can be told from
the failures that are laid up, the flag of the handle and the tracked state.
-/

set_option autoImplicit false

namespace CephMount

open InMemory

namespace Session

variable {session : Session} {slot : String} {mount : Mount} {record : Record}

/-! The turns that end a mount. -/

/-- What became of the handle of a mount that was ended: it is live exactly if `stays`, which is
counted. The slot is vacant, and the records of all other handles are as before. -/
structure Ended (session : Session) (slot : String) (mount : Mount) (after : Session) (stays : Prop) :
    Prop where
  live : after.library.isLive mount.handle = true ↔ stays
  count : session.library.liveHandles =
    after.library.liveHandles + if after.library.isLive mount.handle then 0 else 1
  others : ∀ other, other ≠ mount.handle → after.library.record? other = session.library.record? other
  vacant : after.mounts = session.mounts.erase slot

/-- The flag of the handle is set, and ending the mount will not clear it. -/
def Stuck (session : Session) (mount : Mount) (record : Record) : Prop :=
  record.mounted = true ∧
    (mount.state ≠ .mounted ∨ session.library.failures.get? "unmount" ≠ none)

/-- How either end of a mount goes, told from the session before it. -/
structure EndsExactly (session : Session) (slot : String) (mount : Mount) (record : Record) :
    Prop where
  granted : (session.perform slot .release).result = .answer .nothing ↔
    session.library.failures.get? "release" = none ∧ record.mounted = false
  refused : ∀ code, session.library.failures.get? "release" = some code →
    (session.perform slot .release).result = .failed (.library ⟨code⟩)
  connected : session.library.failures.get? "release" = none → record.mounted = true →
    (session.perform slot .release).result = .failed (.library ⟨Errno.alreadyConnected.code⟩)
  released : session.Ended slot mount (session.perform slot .release).session
    (session.Stuck mount record)
  dropped : session.Ended slot mount (session.perform slot .drop).session
    (session.library.failures.get? "release" ≠ none ∨ session.Stuck mount record)

theorem release_turn (direct : session.Direct) (fail : session.library.FailuresFail)
    (held : session.mounts.get? slot = some mount)
    (found : session.library.record? mount.handle = some record) :
    (session.perform slot .release).result = resultOfUnit (session.library.releaseOutcome record) ∧
      session.Ended slot mount (session.perform slot .release).session
        (session.library.stuck mount record = true) := by
  simp only [perform, withMount, held]
  refine run_direct (motive := fun turn => turn.result = _ ∧ Ended _ _ _ turn.session _) direct
    ((Library.release_meets mount found).mono fun _ _ after released => ?_)
  obtain ⟨ends, exact⟩ := released
  obtain ⟨same, stays⟩ := exact fail
  exact ⟨congrArg resultOfUnit same, iff_of_eq (congrArg (· = true) stays), ends.count, ends.others, rfl⟩

theorem drop_turn (direct : session.Direct) (held : session.mounts.get? slot = some mount)
    (found : session.library.record? mount.handle = some record) :
    session.Ended slot mount (session.perform slot .drop).session
      (((session.library.pending? .release).isSome || session.library.stuck mount record) = true) := by
  simp only [perform, withMount, vacate, held]
  refine run_direct (motive := fun turn => Ended _ _ _ turn.session _) direct
    ((Library.drop_meets mount found).mono fun _ _ after dropped => ?_)
  obtain ⟨ends, stays⟩ := dropped
  exact ⟨iff_of_eq (congrArg (· = true) stays), ends.count, ends.others, rfl⟩

theorem Ended.congr {after : Session} {stays other : Prop}
    (ended : session.Ended slot mount after stays) (same : stays ↔ other) :
    session.Ended slot mount after other :=
  { ended with live := ended.live.trans same }

theorem ends_exactly (direct : session.Direct) (fail : session.library.FailuresFail)
    (held : session.mounts.get? slot = some mount)
    (found : session.library.record? mount.handle = some record) :
    session.EndsExactly slot mount record := by
  obtain ⟨result, released⟩ := release_turn direct fail held found
  refine ⟨?_, fun code pending => ?_, fun none mounted => ?_, ?_, ?_⟩
  · rw [result]
    cases pending : session.library.failures.get? "release" with
    | some code => simp [Library.releaseOutcome_of_pending record pending, resultOfUnit, resultOf, Except.map]
    | none =>
      rw [Library.releaseOutcome_of_none pending]
      cases record.mounted <;> simp [resultOfUnit, resultOf, Except.map]
  · rw [result, Library.releaseOutcome_of_pending record pending]
    rfl
  · rw [result, Library.releaseOutcome_of_none none, if_pos mounted]
    rfl
  · exact released.congr (Library.stuck_iff _ mount record)
  · apply (drop_turn direct held found).congr
    rw [Bool.or_eq_true, Library.stuck_iff, Option.isSome_iff_ne_none]
    rfl

/-- The end of every mount that is held goes exactly as is told beforehand, in every session without
failures that say success. While no flag is set, only a failure of an unmount or a release that is
laid up lets a handle outlive its mount. -/
theorem end_of_life (steps : List Step)
    (through : ∀ step ∈ steps, step.instruction.throughMounts = true)
    (honest : ∀ step ∈ steps, step.instruction.failsHonestly = true) :
    let session := ({} : Session).after steps
    (∀ slot mount, session.mounts.get? slot = some mount →
      ∃ record, session.library.record? mount.handle = some record ∧
        session.EndsExactly slot mount record) ∧
    ((∀ step ∈ steps, step.instruction.setsFlag = false) →
      (∀ slot mount, session.mounts.get? slot = some mount → ∀ instruction ∈ [.release, .drop],
        (session.perform slot instruction).session.library.isLive mount.handle = true →
          session.library.EndMayFail) ∧
      ∀ handle, session.holding.Leaks handle → Injects steps "unmount" ∨ Injects steps "release") := by
  intro session
  obtain ⟨direct, sound⟩ := after_sound through
  have fail := after_failuresFail through honest
  have exactly {slot : String} {mount : Mount} (held : session.mounts.get? slot = some mount) :
      ∃ record, session.library.record? mount.handle = some record ∧
        session.EndsExactly slot mount record := by
    obtain ⟨record, found⟩ := sound.found held
    exact ⟨record, found, ends_exactly direct fail held found⟩
  refine ⟨fun slot mount held => exactly held, fun unset => ?_⟩
  have accounted := after_accounted through honest unset
  refine ⟨fun slot mount held instruction ending alive => ?_, accounted.leaks⟩
  obtain ⟨record, found, ends⟩ := exactly held
  have mayFail (stuck : session.Stuck mount record) : session.library.EndMayFail :=
    .inl (Library.unmount_pending_of_stuck found (accounted.agreeing slot mount held)
      ((Library.stuck_iff _ mount record).mpr stuck))
  rcases List.mem_cons.mp ending with rfl | ending
  · exact mayFail (ends.released.live.mp alive)
  · cases List.mem_singleton.mp ending
    rcases ends.dropped.live.mp alive with pending | stuck
    · exact .inr (Option.isSome_iff_ne_none.mpr pending)
    · exact mayFail stuck

/-- A mount whose unmount and release are both to fail. -/
theorem failing_end_of_life :
    let steps : List Step :=
      [⟨"a", .create (.fresh none)⟩, ⟨"a", .operate .mount⟩,
        ⟨"", .control (.fail "unmount" (-5))⟩, ⟨"", .control (.fail "release" (-110))⟩]
    let session := ({} : Session).after steps
    (∀ step ∈ steps, step.instruction.throughMounts = true) ∧
      (∀ step ∈ steps, step.instruction.failsHonestly = true) ∧
      (∀ step ∈ steps, step.instruction.setsFlag = false) ∧
      (∃ record, session.library.record? ⟨1⟩ = some record ∧
        session.EndsExactly "a" ⟨⟨1⟩, .mounted⟩ record) ∧
      ∀ handle, session.holding.Leaks handle → Injects steps "unmount" ∨ Injects steps "release" :=
  have through := by decide
  have honest := by decide
  have unset := by decide
  have ends := end_of_life _ through honest
  ⟨through, honest, unset, ends.1 "a" _ rfl, (ends.2 unset).2⟩

end Session

end CephMount
