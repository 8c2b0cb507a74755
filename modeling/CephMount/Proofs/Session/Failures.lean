import CephMount.Proofs.InMemory.Commands
import CephMount.Proofs.InMemory.Failures
import CephMount.Proofs.Session.Runs

/-! What failures leave of a session.

An operation that fails leaves the session as it was, but for the failure that caused it. A creation
that fails leaves the same handles with the same records, and a command that comes back, with success
or without, has only been recorded.
-/

set_option autoImplicit false

namespace CephMount

open InMemory

namespace Session

variable {session : Session} {steps : List Step}

theorem perform_numbered (direct : session.Direct) (slot : String) {instruction : Instruction}
    (unarranged : instruction.unarranged = true) (numbered : session.library.Numbered) :
    (session.perform slot instruction).session.library.Numbered := by
  cases outside : instruction.isOutside with
  | true =>
    cases instruction with
    | control control =>
      cases control with
      | arrange arrangement times => cases unarranged
      | _ => exact numbered
    | setFlag mounted =>
      refine withHandle_turn (motive := fun turn => turn.session.library.Numbered) slot numbered ?_
      intro handle other alive
      exact numbered other (Library.isLive_setMountedFlag .. ▸ alive)
    | _ => cases outside
  | false =>
    exact perform_keeps (fun call _ => Library.answer_numbered call) direct slot outside numbered

theorem after_numbered (direct : session.Direct) (numbered : session.library.Numbered)
    (unarranged : ∀ step ∈ steps, step.instruction.unarranged = true) :
    (session.after steps).library.Numbered :=
  unarranged_induction (motive := fun session steps =>
    session.library.Numbered → (session.after steps).library.Numbered) (fun _ => id)
    (fun _ first _ direct own later numbered => later (perform_numbered direct first.slot own numbered))
    direct unarranged numbered

/-- An operation that fails leaves all of the session but what a failure leaves of the library. -/
theorem operate_fails (direct : session.Direct) {slot : String} {operation : Operation}
    {error : Error}
    (failed : (session.perform slot (.operate operation)).result = .failed error) :
    ∃ after, (session.perform slot (.operate operation)).session = session.withLibrary after ∧
      operation.Fails session.library (session.perform slot (.operate operation)).entries error after := by
  have operates := session.operates direct slot operation
  generalize session.perform slot (.operate operation) = turn at failed operates ⊢
  cases operates with
  | vacant vacant => cases failed
  | misused held ran => cases failed
  | @gives mount left outcome entries after held ran =>
    cases outcome with
    | ok answer => cases failed
    | error reason =>
      cases failed
      obtain ⟨rfl, fails⟩ := mount.perform_fails ran
      refine ⟨after, ?_, fails⟩
      rw [Table.insert_of_get?_eq_some held]
      rfl

theorem creation_fails (direct : session.Direct) (numbered : session.library.Numbered)
    {creation : Creation} {error : Error} {entries : List Entry} {after : Arranged}
    (ran : creation.program.run Arranged.answer session.boundary = ⟨.ok (.error error), entries, after⟩)
    (releases : session.library.failures.get? "release" = none) :
    after.library.records = session.library.records := by
  obtain ⟨_, outcome, left, own, created⟩ := (Library.creation_meets creation numbered).run
  change creation.program.run Library.answer session.library = _ at own
  rw [direct, creation.program.run_alone, own] at ran
  cases ran
  exact created.records_of_error numbered releases

/-- A command that is answered has been recorded, and its buffers have come back. -/
theorem command_replies (direct : session.Direct) {slot : String} {line : CommandLine}
    {reply : CommandReply}
    (replied : (session.perform slot (.operate (.command line))).result = .answer (.reply reply)) :
    ∃ freedBuffers, (session.perform slot (.operate (.command line))).session = session.withLibrary
      { session.library with
        commands := session.library.commands ++ [line.received], freedBuffers } := by
  have operates := session.operates direct slot (.command line)
  generalize session.perform slot (.operate (.command line)) = turn at replied operates ⊢
  cases operates with
  | vacant vacant => cases replied
  | misused held ran => cases replied
  | @gives mount left outcome entries after held ran =>
    cases crosses : line.crosses with
    | false =>
      obtain ⟨error, is⟩ := mount.command_rejected crosses
      rw [is] at ran
      cases ran
      cases replied
    | true =>
      cases found : session.library.record? mount.handle with
      | none => cases (Mount.command_refused crosses found).symm.trans ran
      | some record =>
        obtain ⟨_, answered⟩ := Mount.command_answered crosses found
        cases answered.symm.trans ran
        refine ⟨session.library.freedBuffers +
          (session.library.commandReply record line.received).buffers, ?_⟩
        rw [Table.insert_of_get?_eq_some held]
        rfl

/-- A failure changes nothing. An operation that fails leaves the mounts, the records, the log and all
that is counted, and of the failures that are laid up it uses at most the one that it failed by. A
creation that fails leaves the handles that were live, with their records, unless a release was to
fail. A command that comes back, whatever its code, is recorded and its buffers are counted. -/
theorem failures_change_nothing (steps : List Step)
    (unarranged : ∀ step ∈ steps, step.instruction.unarranged = true) :
    let session := ({} : Session).after steps
    (∀ slot operation error,
        (session.perform slot (.operate operation)).result = .failed error →
        ∃ after, (session.perform slot (.operate operation)).session = session.withLibrary after ∧
          operation.Fails session.library (session.perform slot (.operate operation)).entries error
            after) ∧
      (∀ creation error entries after,
        Program.run Arranged.answer (Creation.program creation) session.boundary =
          ⟨.ok (.error error), entries, after⟩ →
        session.library.failures.get? "release" = none →
        after.library.records = session.library.records) ∧
      ∀ slot line reply,
        (session.perform slot (.operate (.command line))).result = .answer (.reply reply) →
        ∃ freedBuffers, (session.perform slot (.operate (.command line))).session =
          session.withLibrary { session.library with
            commands := session.library.commands ++ [line.received], freedBuffers } := by
  have direct := (after_balances start_direct unarranged).1
  have numbered := after_numbered start_direct start_sound.numbered unarranged
  exact ⟨fun _ _ _ => operate_fails direct, fun _ _ _ _ => creation_fails direct numbered,
    fun _ _ _ => command_replies direct⟩

/-- A broken path leaves the failure that was laid up for it, a handle that is gone fails by another
one, and a mount that is mounted is not mounted again. A handle is made and given up for a missing
file, and a command comes back with a failure. -/
theorem mixed_failures_change_nothing :
    let steps : List Step :=
      [⟨"a", .create (.fresh none)⟩, ⟨"b", .create (.fresh none)⟩, ⟨"b", .around .release⟩,
        ⟨"a", .operate .mount⟩, ⟨"", .control (.fail "chdir" (-5))⟩,
        ⟨"", .control (.fail "sync_fs" (-4))⟩,
        ⟨"", .control (.script ⟨"mds.a", [[102, 115]], -5, [1], "failed"⟩)⟩]
    let failing : List (String × Operation × Error) :=
      [("a", .path (.enter "a\x00"), .interiorNul 1), ("b", .sync, .library ⟨-4⟩),
        ("a", .mount, .library ⟨-106⟩)]
    let missing : Creation := .prepared { configFile := some [47] }
    let line : CommandLine := ⟨"mds.a", [[102, 115]], none⟩
    let session := ({} : Session).after steps
    (∀ step ∈ steps, step.instruction.unarranged = true) ∧
      (∀ entry ∈ failing,
        (session.perform entry.1 (.operate entry.2.1)).result = .failed entry.2.2 ∧
          ∃ after, (session.perform entry.1 (.operate entry.2.1)).session = session.withLibrary after ∧
            entry.2.1.Fails session.library (session.perform entry.1 (.operate entry.2.1)).entries
              entry.2.2 after) ∧
      (missing.program.run Arranged.answer session.boundary).state.library.records =
        session.library.records ∧
      (session.perform "a" (.operate (.command line))).result =
          .answer (.reply ⟨[1], "failed", some ⟨-5⟩⟩) ∧
        ∃ freedBuffers, (session.perform "a" (.operate (.command line))).session =
          session.withLibrary { session.library with
            commands := session.library.commands ++ [line.received], freedBuffers } := by
  intro steps failing missing line session
  have unarranged : ∀ step ∈ steps, step.instruction.unarranged = true := by decide
  obtain ⟨operations, creations, commands⟩ := failures_change_nothing steps unarranged
  have failed : ∀ entry ∈ failing,
      (session.perform entry.1 (.operate entry.2.1)).result = .failed entry.2.2 := by decide +kernel
  have gave : (missing.program.run Arranged.answer session.boundary).result =
      .ok (.error (.library ⟨-2⟩)) := by rfl
  have replied : (session.perform "a" (.operate (.command line))).result =
      .answer (.reply ⟨[1], "failed", some ⟨-5⟩⟩) := by decide +kernel
  refine ⟨unarranged, fun entry member => ⟨failed entry member, ?_⟩, ?_, replied, ?_⟩
  · exact operations _ _ _ (failed entry member)
  · have ran : missing.program.run Arranged.answer session.boundary =
        ⟨.ok (.error (.library ⟨-2⟩)), _, _⟩ := congrArg (Run.mk · _ _) gave
    exact creations missing _ _ _ ran (by decide +kernel)
  · exact commands "a" line _ replied

end Session

end CephMount
