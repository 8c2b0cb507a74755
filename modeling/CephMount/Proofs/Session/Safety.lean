import CephMount.Proofs.Session.Steps

/-! No session that uses the library through mounts alone misuses it.

Failures may be laid up with any code, also one that says success, and flags may be set behind the
mounts' backs. All the same every call is made on a live handle, no handle is made twice, and none
comes back to life.
-/

set_option autoImplicit false

namespace CephMount

open InMemory

namespace Session

/-- Whatever is done next with a mount that is held, or to make another, calls on live handles alone
and is never refused. No two slots hold one handle. -/
structure Guards (session : Session) : Prop where
  live : ∀ slot mount, session.mounts.get? slot = some mount →
    session.library.isLive mount.handle = true
  apart : ∀ slot other mount another, session.mounts.get? slot = some mount →
    session.mounts.get? other = some another → mount.handle = another.handle → slot = other
  operations : ∀ slot mount, session.mounts.get? slot = some mount → ∀ operation,
    (mount.perform operation).Meets Arranged.discipline session.boundary fun _ _ _ => True
  endings : ∀ slot mount, session.mounts.get? slot = some mount → ∀ ending : Ending,
    (ending.program mount).Meets Arranged.discipline session.boundary fun _ _ _ => True
  creations : ∀ creation : Creation,
    creation.program.Meets Arranged.discipline session.boundary fun _ _ _ => True

variable {session : Session} {steps : List Step}

theorem guards_of_sound (direct : session.Direct) (sound : session.holding.Sound) :
    session.Guards := by
  have lifted {α : Type} {program : Program α} {post : List Entry → α → Library → Prop}
      (meets : program.Meets Library.discipline session.library post) :
      program.Meets Arranged.discipline session.boundary fun _ _ _ => True := by
    rw [direct]
    exact meets.direct.mono fun _ _ _ _ => trivial
  refine ⟨sound.live, sound.apart, fun slot mount held operation => ?_,
    fun slot mount held ending => ?_, fun creation => ?_⟩
  · exact lifted (Library.perform_meets mount operation (sound.live slot mount held))
  · obtain ⟨record, found⟩ := sound.found held
    cases ending with
    | release => exact lifted (Library.release_meets mount found)
    | drop =>
      exact (Program.meets_bind ..).mpr
        ((lifted (Library.drop_meets mount found)).mono fun _ _ _ _ => trivial)
  · exact lifted (Library.creation_meets creation sound.numbered)

theorem reports_unmisused (direct : session.Direct) (sound : session.holding.Sound)
    (through : ∀ step ∈ steps, step.instruction.throughMounts = true) (report : Report)
    (member : report ∈ session.reports steps) (misuse : Misuse) :
    report.result ≠ .misused misuse := by
  induction steps generalizing session with
  | nil =>
    cases List.mem_singleton.mp member
    exact (close_orderly direct sound).unmisused misuse
  | cons first rest ih =>
    have orderly := perform_orderly direct sound first.slot (through first List.mem_cons_self)
    rcases List.mem_cons.mp member with rfl | member
    · exact orderly.unmisused misuse
    · exact ih orderly.direct (orderly.reaches.sound sound)
        (fun step member => through step (List.mem_cons_of_mem _ member)) member

theorem reports_entries (session : Session) (steps : List Step) :
    (session.reports steps).flatMap Report.entries =
      session.trace steps ++ (session.after steps).close.entries := by
  induction steps generalizing session with
  | nil => simp [reports, trace, after]
  | cons first rest ih => simp only [reports, List.flatMap_cons, ih, trace, after, List.append_assoc]

/-- Through mounts no handle is misused, whatever failures and flags there are; no handle is given out
twice, and one that was given out and is dead stays dead. -/
theorem never_misuses (steps : List Step)
    (through : ∀ step ∈ steps, step.instruction.throughMounts = true) :
    (∀ report ∈ ({} : Session).reports steps, ∀ misuse, report.result ≠ .misused misuse) ∧
      (({} : Session).after steps).Guards ∧
      (Trace.made ((({} : Session).reports steps).flatMap Report.entries)).Nodup ∧
      ∀ early late, steps = early ++ late →
        ∀ handle ∈ Trace.made (({} : Session).trace early),
          (({} : Session).after early).library.isLive handle = false →
            (({} : Session).after steps).library.isLive handle = false := by
  obtain ⟨direct, sound⟩ := after_sound through
  refine ⟨reports_unmisused start_direct start_sound through, guards_of_sound direct sound, ?_, ?_⟩
  · -- The drops at the end of the session are reported behind its steps.
    rw [reports_entries, Trace.made_append]
    have closed := (close_orderly direct sound).reaches.advances sound
    exact ((after_advances start_direct start_sound through).trans closed).once
  · rintro early late rfl handle given dead
    have throughEarly : ∀ step ∈ early, step.instruction.throughMounts = true :=
      fun step member => through step (List.mem_append_left late member)
    have throughLate : ∀ step ∈ late, step.instruction.throughMounts = true :=
      fun step member => through step (List.mem_append_right early member)
    obtain ⟨directEarly, soundEarly⟩ := after_sound throughEarly
    -- What was given out early lies below every number that is given out later.
    have bound := ((after_advances start_direct start_sound throughEarly).fresh handle given).2
    rw [after_append]
    exact (after_advances directEarly soundEarly throughLate).dead bound dead

/-- A release that a failure of code zero makes up, a flag that is set, and the end of the session. -/
theorem lying_release_never_misuses :
    let steps : List Step :=
      [⟨"a", .create (.fresh none)⟩, ⟨"a", .setFlag true⟩, ⟨"", .control (.fail "release" 0)⟩,
        ⟨"a", .release⟩, ⟨"a", .create (.fresh none)⟩, ⟨"a", .operate .mount⟩, ⟨"a", .drop⟩]
    (∀ step ∈ steps, step.instruction.throughMounts = true) ∧
      (({} : Session).after steps).Guards ∧
      (∀ report ∈ ({} : Session).reports steps, ∀ misuse, report.result ≠ .misused misuse) :=
  have through := by decide
  have safe := never_misuses _ through
  ⟨through, safe.2.1, safe.1⟩

end Session

end CephMount
