import CephMount.Proofs.InMemory.Commands
import CephMount.Proofs.Session.Runs

/-! The commands of a session: which are recorded, and what each is answered.

The log is told from the steps alone: a command that a mount sends stands in it once, whatever becomes
of it. The reply is told from the handle's flag and the scripts that were laid before.
-/

set_option autoImplicit false

namespace CephMount

open InMemory

/-- The script that a step lays. -/
def Step.script? (step : Step) : Option Script :=
  match step.instruction with
  | .control (.script script) => some script
  | _ => none

/-- The reply to a command, told from the handle's flag and the scripts before it. The latest script
for this target and exactly these words counts. -/
def CommandLine.replyFrom (line : CommandLine) (mounted : Bool) (scripts : List Script) : CommandReply :=
  if mounted then
    match scripts.reverse.find? fun script =>
        script.target == line.target && script.arguments == line.arguments with
    | some script => ⟨script.reply.output, script.reply.info, ErrorCode.ofCode? script.reply.code⟩
    | none => ⟨[], "unrecognized command", some ⟨Errno.invalidArgument.code⟩⟩
  else ⟨[], "", some ⟨Errno.notConnected.code⟩⟩

/-- A program that sends no command leaves the log. -/
theorem Program.Within.run_commands {α : Type} {program : Program α} {post : α → Prop}
    (within : program.Within Call.Bare post) (library : Library) :
    (program.run Library.answer library).state.commands = library.commands := by
  have step (call : Call) (state : Library) (bare : call.Bare)
      (same : state.commands = library.commands) :
      (Library.answer call state).2.commands = library.commands := by
    rw [← same]
    refine Library.answer_commands (fun handle command is => ?_) state
    subst is
    exact bare
  exact within.run_keeps step rfl

/-- Only the operation that sends a command runs a program that may send one. -/
theorem Instruction.Runs.bare {α : Type} {instruction : Instruction} {program : Program α}
    (runs : instruction.Runs program) (other : ∀ line, instruction ≠ .operate (.command line)) :
    program.Within Call.Bare fun _ => True := by
  cases runs with
  | around => exact ⟨trivial, fun _ => trivial⟩
  | @vacates source mount => exact mount.drop_asks.widen fun _ asks => asks.plain.bare
  | @creates source creation => exact creation.program_bare
  | @operates mount operation =>
    by_cases quiet : operation.isQuiet = true
    · exact ((mount.perform_quiet quiet).widen fun _ quiet => quiet.plain.bare).mono fun _ _ => trivial
    cases operation with
    | mount =>
      rw [Mount.perform, Mount.mount_eq]
      exact (Program.within_bind ..).mpr ((mount.advance_within .mounted trivial).mono fun _ _ => trivial)
    | unmount =>
      rw [Mount.perform, Mount.unmount_eq]
      exact (Program.within_bind ..).mpr ((mount.advance_within .unmounted trivial).mono fun _ _ => trivial)
    | command line => exact absurd rfl (other line)
    | _ => exact absurd rfl quiet
  | @releases mount => exact mount.release_asks.widen fun _ asks => asks.plain.bare
  | @drops mount => exact mount.drop_asks.widen fun _ asks => asks.plain.bare

namespace Session

/-- The command that a step sends: one for which its slot holds a mount, and that crosses. -/
def sent? (session : Session) (step : Step) : Option RecordedCommand :=
  match step.instruction with
  | .operate (.command line) =>
    if (session.mounts.get? step.slot).isSome && line.crosses then some line.received else none
  | _ => none

/-- The commands that steps send, in order. -/
def sent (session : Session) : List Step → List RecordedCommand
  | [] => []
  | first :: rest => (session.sent? first).toList ++ (session.step first).2.sent rest

variable {session : Session} {steps : List Step}

/-- What becomes of a command in a session: one that crosses is recorded, also for a dead handle, and
one that does not, or for which there is no mount, leaves the log. -/
theorem command_commands (direct : session.Direct) (slot : String) (line : CommandLine) :
    (session.perform slot (.operate (.command line))).session.library.commands =
      session.library.commands ++ (session.sent? ⟨slot, .operate (.command line)⟩).toList := by
  have recorded {mount : Mount} (held : session.mounts.get? slot = some mount) :
      ((mount.perform (.command line)).run Library.answer session.library).state.commands =
        session.library.commands ++ (session.sent? ⟨slot, .operate (.command line)⟩).toList := by
    cases crosses : line.crosses with
    | false =>
      obtain ⟨error, is⟩ := mount.command_rejected crosses
      rw [is]
      simp [Program.run, sent?, crosses]
    | true =>
      cases found : session.library.record? mount.handle with
      | none =>
        rw [Mount.command_refused crosses found]
        simp [sent?, held, crosses]
      | some record =>
        obtain ⟨entries, ran⟩ := Mount.command_answered crosses found
        rw [ran]
        simp [sent?, held, crosses]
  have operates := session.operates direct slot (.command line)
  generalize session.perform slot (.operate (.command line)) = turn at operates ⊢
  cases operates with
  | vacant vacant => simp [sent?, vacant, quiet]
  | misused held ran =>
    have same := recorded held
    rw [ran] at same
    exact same
  | gives held ran =>
    have same := recorded held
    rw [ran] at same
    exact same

/-- What a step records is what it sends. -/
theorem perform_commands (direct : session.Direct) (slot : String) {instruction : Instruction}
    (unarranged : instruction.unarranged = true) :
    (session.perform slot instruction).session.library.commands =
      session.library.commands ++ (session.sent? ⟨slot, instruction⟩).toList := by
  by_cases sends : ∃ line, instruction = .operate (.command line)
  · obtain ⟨line, rfl⟩ := sends
    exact command_commands direct slot line
  have other (line : CommandLine) : instruction ≠ .operate (.command line) :=
    fun is => sends ⟨line, is⟩
  have none : session.sent? ⟨slot, instruction⟩ = none := by
    unfold sent?
    split
    next line is => exact absurd is (other line)
    · rfl
  rw [none, Option.toList_none, List.append_nil]
  cases outside : instruction.isOutside with
  | true =>
    cases instruction with
    | control control =>
      cases control with
      | arrange arrangement times => cases unarranged
      | _ => rfl
    | setFlag mounted =>
      exact withHandle_turn (motive := fun turn =>
        turn.session.library.commands = session.library.commands) slot rfl fun _ => rfl
    | _ => cases outside
  | false =>
    have composes : Library.Composes fun before _ after => after.commands = before.commands :=
      ⟨fun _ => rfl, fun _ _ _ _ _ left right => right.trans left⟩
    exact perform_relates composes direct slot outside fun runs library =>
      (runs.bare other).run_commands library

/-- The log of a run of steps is what was in it, and behind it what the steps send. -/
theorem after_sent (direct : session.Direct)
    (unarranged : ∀ step ∈ steps, step.instruction.unarranged = true) :
    (session.after steps).library.commands = session.library.commands ++ session.sent steps := by
  refine unarranged_induction (motive := fun session steps =>
    (session.after steps).library.commands = session.library.commands ++ session.sent steps)
    (fun _ => (List.append_nil _).symm) ?_ direct unarranged
  intro session first rest direct own later
  have recorded := perform_commands direct first.slot own
  rw [after, sent, ← List.append_assoc, ← recorded]
  exact later

theorem perform_scripts (direct : session.Direct) (slot : String) {instruction : Instruction}
    (unarranged : instruction.unarranged = true) :
    (session.perform slot instruction).session.library.scripts =
      (Step.script? ⟨slot, instruction⟩).toList ++ session.library.scripts := by
  cases outside : instruction.isOutside with
  | true =>
    cases instruction with
    | control control =>
      cases control with
      | arrange arrangement times => cases unarranged
      | _ => rfl
    | setFlag mounted =>
      exact withHandle_turn (motive := fun turn =>
        turn.session.library.scripts = session.library.scripts) slot rfl fun _ => rfl
    | _ => cases outside
  | false =>
    have none : Step.script? ⟨slot, instruction⟩ = none := by
      cases instruction with
      | control control => cases outside
      | _ => rfl
    have kept (call : Call) (library : Library) (same : library.scripts = session.library.scripts) :
        (Library.answer call library).2.scripts = session.library.scripts := by
      obtain ⟨_, _, _, _, _, _, _, left⟩ := library.answer_frame call
      rw [left]
      exact same
    rw [none]
    exact perform_keeps kept direct slot outside rfl

/-- The scripts of a run of steps lie there with the latest one first. -/
theorem after_scripts (direct : session.Direct)
    (unarranged : ∀ step ∈ steps, step.instruction.unarranged = true) :
    (session.after steps).library.scripts =
      (steps.filterMap Step.script?).reverse ++ session.library.scripts := by
  refine unarranged_induction (motive := fun session steps => (session.after steps).library.scripts =
    (steps.filterMap Step.script?).reverse ++ session.library.scripts) (fun _ => rfl) ?_ direct unarranged
  intro session first rest direct own later
  have laid := perform_scripts direct first.slot own
  change _ = _ ++ (session.perform first.slot first.instruction).session.library.scripts at later
  rw [laid] at later
  refine later.trans ?_
  cases script : first.script? <;> simp [script]

/-- What a script says is what the library answers with. -/
theorem reply_eq (library : Library) (record : Record) (line : CommandLine) :
    let own := library.commandReply record line.received
    (⟨own.output, own.info, ErrorCode.ofCode? own.code⟩ : CommandReply) =
      line.replyFrom record.mounted library.scripts.reverse := by
  unfold Library.commandReply CommandLine.replyFrom Library.scriptedReply
  cases record.mounted with
  | false => rfl
  | true =>
    rw [List.reverse_reverse]
    dsimp only [CommandLine.received]
    cases library.scripts.find? fun script =>
        script.target == line.target && script.arguments == line.arguments with
    | none => rfl
    | some script => rfl

/-- A command on a live handle is answered, and by nothing but its flag and the scripts. -/
theorem command_result (direct : session.Direct) {slot : String} {mount : Mount} {record : Record}
    {line : CommandLine} (held : session.mounts.get? slot = some mount)
    (found : session.library.record? mount.handle = some record) (crosses : line.crosses = true) :
    (session.perform slot (.operate (.command line))).result =
      .answer (.reply (line.replyFrom record.mounted session.library.scripts.reverse)) := by
  obtain ⟨entries, ran⟩ := Mount.command_answered crosses found
  rw [reply_eq] at ran
  rw [operate_of_run direct held ran]
  rfl

/-- After any steps the log holds exactly the commands that were sent, in order, whatever became of
them. Every one on a live handle is answered by the flag of the handle at that time and the scripts
that were laid before it. -/
theorem commands_told_by_history (steps : List Step)
    (unarranged : ∀ step ∈ steps, step.instruction.unarranged = true) :
    (({} : Session).after steps).library.commands = ({} : Session).sent steps ∧
      ∀ early slot line late, steps = early ++ ⟨slot, .operate (.command line)⟩ :: late →
        ∀ mount record,
          (({} : Session).after early).mounts.get? slot = some mount →
          (({} : Session).after early).library.record? mount.handle = some record →
          line.crosses = true →
          ((({} : Session).after early).perform slot (.operate (.command line))).result =
            .answer (.reply (line.replyFrom record.mounted (early.filterMap Step.script?))) := by
  refine ⟨after_sent start_direct unarranged, ?_⟩
  rintro early slot line late rfl mount record held found crosses
  have before : ∀ step ∈ early, step.instruction.unarranged = true := fun step member =>
    unarranged step (List.mem_append_left _ member)
  have laid : (({} : Session).after early).library.scripts = (early.filterMap Step.script?).reverse :=
    (after_scripts start_direct before).trans (List.append_nil _)
  have replies := command_result (after_balances start_direct before).1 held found crosses
  rw [laid, List.reverse_reverse] at replies
  exact replies

/-- A command comes before the handle is mounted, one without words, and one on a handle that is gone.
Then a command is answered that has two scripts, while a third has its words as one. -/
theorem rescripted_commands_told_by_history :
    let early : List Step :=
      [⟨"a", .create (.fresh none)⟩, ⟨"a", .operate (.command ⟨"mds.a", [[97], [98]], none⟩)⟩,
        ⟨"a", .operate .mount⟩, ⟨"", .control (.script ⟨"mds.a", [[97], [98]], -5, [1], "old"⟩)⟩,
        ⟨"", .control (.script ⟨"mds.a", [[97], [98]], 0, [2], "new"⟩)⟩,
        ⟨"", .control (.script ⟨"mds.a", [[97, 32, 98]], 0, [3], "joined"⟩)⟩,
        ⟨"a", .operate (.command ⟨"mds.a", [], none⟩)⟩, ⟨"b", .create (.fresh none)⟩,
        ⟨"b", .around .release⟩, ⟨"b", .operate (.command ⟨"mds.b", [[97]], some [0]⟩)⟩]
    let line : CommandLine := ⟨"mds.a", [[97], [98]], some [7]⟩
    let steps := early ++ [⟨"a", .operate (.command line)⟩]
    (∀ step ∈ steps, step.instruction.unarranged = true) ∧
      (({} : Session).after steps).library.commands =
        [⟨"mds.a", [[97], [98]], []⟩, ⟨"mds.b", [[97]], [0]⟩, ⟨"mds.a", [[97], [98]], [7]⟩] ∧
      ((({} : Session).after early).perform "a" (.operate (.command line))).result =
        .answer (.reply ⟨[2], "new", none⟩) := by
  intro early line steps
  have unarranged : ∀ step ∈ steps, step.instruction.unarranged = true := by decide
  obtain ⟨logged, replies⟩ := commands_told_by_history steps unarranged
  have held : (({} : Session).after early).mounts.get? "a" = some ⟨⟨1⟩, .mounted⟩ := by
    decide +kernel
  have flag : (({} : Session).after early).library.flag? ⟨1⟩ = some true := by decide +kernel
  obtain ⟨record, found, mounted⟩ := Option.map_eq_some_iff.mp flag
  refine ⟨unarranged, logged.trans (by decide +kernel), ?_⟩
  rw [replies early "a" line [] rfl _ record held found (by decide), mounted]
  decide

end Session

end CephMount
