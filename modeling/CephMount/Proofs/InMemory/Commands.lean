import CephMount.Proofs.InMemory.Isolation
import CephMount.Proofs.Mount.Rejection

/-! A command as its caller gives it, and what the in-memory library makes of it.

What can cross is received as it was given and recorded, even for a handle that is dead. A live handle
answers by its flag and by the latest script for the command, and the answer reaches the caller whole.
-/

set_option autoImplicit false

namespace CephMount

open InMemory

/-- The command as the library receives it; where no input is given it is empty. -/
def CommandLine.received (line : CommandLine) : RecordedCommand :=
  ⟨line.target, line.arguments, line.input.getD []⟩

/-- The command has words, and neither they nor its target hold a NUL. -/
def CommandLine.crosses (line : CommandLine) : Bool :=
  !line.arguments.isEmpty &&
    (Utf8.encode line.target :: line.arguments).all fun string => !string.contains 0

theorem CommandLine.Reads.received {line : CommandLine} {command : Command}
    (reads : line.Reads command) : RecordedCommand.ofCommand command = line.received := by
  have spells : command.target.Spells line.target := reads.target
  rw [RecordedCommand.ofCommand, spells.text_eq, reads.words, reads.input]
  rfl

/-- A command crosses exactly when there is no reason to reject it. -/
theorem CommandLine.crosses_iff {line : CommandLine} :
    line.crosses = true ↔ ∀ error, ¬(Operation.command line).Rejected error := by
  have unbroken : (∀ string ∈ Utf8.encode line.target :: line.arguments, 0 ∉ string) ↔
      ∀ offset, ¬FirstNul (Utf8.encode line.target :: line.arguments) offset := by
    rw [← not_exists, exists_firstNul_iff]
    simp only [not_exists, not_and]
  have split : line.crosses = true ↔ line.arguments ≠ [] ∧
      ∀ string ∈ Utf8.encode line.target :: line.arguments, 0 ∉ string := by
    simp [crosses]
  rw [split, unbroken]
  constructor
  · rintro ⟨some, whole⟩ error (none | ⟨-, nul⟩)
    · exact some none
    · exact whole _ nul
  · intro accepted
    have some : line.arguments ≠ [] := fun none => accepted _ (.wordless none)
    exact ⟨some, fun offset nul => accepted _ (.broken some nul)⟩

namespace Mount

/-- A command that crosses is sent as it was given. -/
theorem command_crosses (mount : Mount) {line : CommandLine} (crosses : line.crosses = true) :
    ∃ command, RecordedCommand.ofCommand command = line.received ∧
      mount.perform (.command line) = (mount.send line.target command).bind fun reply =>
        .done (.ok (.reply reply), mount) := by
  have accepted := CommandLine.crosses_iff.mp crosses
  cases mount.course (.command line) with
  | rejected rejected is => exact absurd rejected (accepted _)
  | concludes asks concludes => cases asks
  | @sends _ command some reads is =>
    refine ⟨command, reads.received, ?_⟩
    rw [perform, is, Program.bind_eq_bind, Program.bind_assoc]
    rfl

/-- A command that does not cross calls nothing. -/
theorem command_rejected (mount : Mount) {line : CommandLine} (kept : line.crosses = false) :
    ∃ error, mount.perform (.command line) = .done (.error error, mount) := by
  cases mount.course (.command line) with
  | rejected _ is => exact ⟨_, is⟩
  | concludes asks concludes => cases asks
  | @sends _ command some reads is =>
    have carries : (Attempt.operate mount (.command line)).CrossesAs (.command mount.handle command) :=
      .command some (command.read_image.symm ▸ reads)
    have crosses := CommandLine.crosses_iff.mpr fun error rejected =>
      carries.unrejected error (.operate rejected)
    exact absurd (kept.symm.trans crosses) Bool.false_ne_true

variable {mount : Mount} {line : CommandLine} {library : Library}

/-- A command on a dead handle is recorded, and nothing comes back. -/
theorem command_refused (crosses : line.crosses = true) (dead : library.record? mount.handle = none) :
    (mount.perform (.command line)).run Library.answer library =
      ⟨.error (.usedAfterRelease mount.handle), [],
        { library with commands := library.commands ++ [line.received] }⟩ := by
  obtain ⟨command, received, is⟩ := mount.command_crosses crosses
  rw [is, Program.run_bind, send_eq, Program.run, Library.answer_command_of_dead command dead, received]
  rfl

/-- A command on a live handle is recorded, and the answer to it comes back whole. -/
theorem command_answered {record : Record} (crosses : line.crosses = true)
    (found : library.record? mount.handle = some record) :
    let own := library.commandReply record line.received
    ∃ entries, (mount.perform (.command line)).run Library.answer library =
      ⟨.ok (.ok (.reply ⟨own.output, own.info, ErrorCode.ofCode? own.code⟩), mount), entries,
        { library with
          commands := library.commands ++ [line.received]
          freedBuffers := library.freedBuffers + own.buffers }⟩ := by
  obtain ⟨command, received, is⟩ := mount.command_crosses crosses
  obtain ⟨entries, reply, after, ran, rfl, rfl⟩ :=
    (Library.send_meets mount line.target command found).run
  change (mount.send line.target command).run Library.answer library = _ at ran
  rw [is, Program.run_bind, ran, ← received]
  exact ⟨entries ++ [], rfl⟩

end Mount

end CephMount
