import CephMount.Proofs.InMemory.Options
import CephMount.Proofs.Session.Agreement
import CephMount.Proofs.Session.Runs

/-! The options of the mounts of a session: what a look-up gives after any steps.

The writes on a handle are told from the calls that succeeded, and an operation adds to them what it
sets. Of the writes of a key the last one counts, also where the value has to be asked for again with
larger buffers. No failure is laid up that says success.
-/

set_option autoImplicit false

namespace CephMount

open InMemory

/-! What operations write. -/

/-- What a step in configuring sets, in order. -/
def Setting.writes (surroundings : Surroundings) : Setting → List (String × String)
  | defaultConfig | configFile _ => []
  | environment name => Argument.settingsOf <|
      (surroundings.environment.get? (name.getD Surroundings.defaultVariable)).getD ""
  | option key value => [(key, value)]

/-- What an operation sets. -/
def Operation.writes (surroundings : Surroundings) : Operation → List (String × String)
  | configure setting => setting.writes surroundings
  | _ => []

theorem Setting.Asks.writes_eq {setting : Setting} {request : Request} (asks : setting.Asks request)
    (surroundings : Surroundings) : request.writes surroundings = setting.writes surroundings := by
  cases asks with
  | defaultConfig | configFile list | defaultVariable => rfl
  | environment spells =>
    rw [Request.writes, Surroundings.variableText, Option.map_some, Option.getD_some, spells.text_eq]
    rfl
  | option named spells =>
    rw [Request.writes, named.text_eq, spells.text_eq]
    rfl

theorem Operation.Asks.writes_eq {operation : Operation} {request : Request}
    (asks : operation.Asks request) (surroundings : Surroundings) :
    request.writes surroundings = operation.writes surroundings := by
  cases asks with
  | configure asks => exact asks.writes_eq surroundings
  | @path operation _ asks =>
    obtain ⟨path, -, rfl⟩ := asks
    cases operation <;> rfl
  | mount | unmount | sync => rfl

/-- The call can write nothing, whatever it is answered. -/
def Call.Writeless : Call → Prop
  | .request _ asked => ∀ surroundings, asked.writes surroundings = []
  | _ => True

theorem Call.Writeless.writes_eq {call : Call} (writeless : call.Writeless) (reply : call.Reply)
    (surroundings : Surroundings) (handle : Handle) :
    (Entry.called call reply).writes surroundings handle = [] := by
  cases call with
  | request holder request =>
    rw [Entry.writes, writeless surroundings]
    exact ite_self []
  | _ => rfl

theorem Call.Unasking.writeless {call : Call} (unasking : call.Unasking) : call.Writeless := by
  cases call with
  | request holder request =>
    obtain rfl := unasking
    exact fun _ => rfl
  | _ => exact trivial

theorem Program.Within.run_writes {σ α : Type} {program : Program α} {post : α → Prop}
    (within : program.Within Call.Writeless post) (surroundings : Surroundings) (handle : Handle)
    (boundary : Boundary σ) (state : σ) :
    Trace.writes surroundings handle (program.run boundary state).entries = [] := by
  induction program generalizing state with
  | done result => rfl
  | log event next ih => exact ih within state
  | call request next ih =>
    rw [Program.run]
    split
    · rfl
    next reply after answered =>
      have own := within.1.writes_eq reply surroundings handle
      have later := ih reply (within.2 reply) after
      exact List.append_eq_nil_iff.mpr ⟨own, later⟩

namespace Mount

variable {mount left : Mount} {operation : Operation} {library after : Library} {entries : List Entry}

/-- An operation that comes to an end has written what it sets if it was granted, and else nothing. -/
theorem perform_writes {outcome : Outcome Answer} (handle : Handle)
    (ran : (mount.perform operation).run Library.answer library = ⟨.ok (outcome, left), entries, after⟩) :
    Trace.writes library.surroundings handle entries =
      if mount.handle = handle ∧ Session.resultOf outcome = .answer .nothing then
        operation.writes library.surroundings
      else [] := by
  rcases mount.concludes_or_unasking operation with ⟨request, asks, concludes⟩ | unasking
  · obtain ⟨code, -, concluded, called⟩ := concludes.run_once ran
    have own : Trace.writes library.surroundings handle entries =
        if mount.handle = handle ∧ code = 0 then operation.writes library.surroundings else [] := by
      rw [← Trace.writes_calls, called, ← asks.writes_eq]
      exact List.append_nil _
    rw [own]
    simp only [granted_iff concluded]
  · have none := (unasking.widen fun _ => Call.Unasking.writeless).run_writes library.surroundings handle
      Library.answer library
    rw [ran] at none
    have other := unasking.run_post (congrArg Run.result ran)
    refine none.trans (if_neg ?_).symm
    rintro ⟨-, granted⟩
    cases outcome <;> cases granted
    exact other rfl

/-- An operation that is cut short has written nothing. -/
theorem perform_misused_writes {misuse : Misuse} (handle : Handle)
    (ran : (mount.perform operation).run Library.answer library = ⟨.error misuse, entries, after⟩) :
    Trace.writes library.surroundings handle entries = [] := by
  rcases mount.concludes_or_unasking operation with ⟨request, asks, concludes⟩ | unasking
  · rw [(concludes.run_refused ran).2]
    rfl
  · have none := (unasking.widen fun _ => Call.Unasking.writeless).run_writes library.surroundings handle
      Library.answer library
    rwa [ran] at none

end Mount

/-! What steps write. -/

/-- What a look-up gives for the last value that was written. A value of more bytes fits no buffer. -/
def Result.recalled : Option String → Result
  | none => .failed (.library ⟨Errno.noEntry.code⟩)
  | some value =>
    if (Utf8.encode value).length ≤ 65535 then .answer (.text (beforeNul value))
    else .failed (.library ⟨Errno.nameTooLong.code⟩)

namespace Session

/-- What steps write on a handle, in order, told from the calls that succeed. -/
def writes (session : Session) (handle : Handle) : List Step → List (String × String)
  | [] => []
  | first :: rest =>
    Trace.writes session.library.surroundings handle (session.step first).1.entries ++
      (session.step first).2.writes handle rest

variable {session : Session} {steps : List Step}

theorem writes_append (session : Session) (handle : Handle) (early late : List Step) :
    session.writes handle (early ++ late) =
      session.writes handle early ++ (session.after early).writes handle late := by
  induction early generalizing session with
  | nil => rfl
  | cons first rest ih =>
    rw [List.cons_append, writes, ih, ← List.append_assoc]
    rfl

/-- A step that operates on a mount writes what the operation sets, if it is granted. -/
theorem operate_writes (direct : session.Direct) {slot : String} {mount : Mount} (operation : Operation)
    (handle : Handle) (held : session.mounts.get? slot = some mount) :
    let turn := session.perform slot (.operate operation)
    Trace.writes session.library.surroundings handle turn.entries =
      if mount.handle = handle ∧ turn.result = .answer .nothing then
        operation.writes session.library.surroundings
      else [] := by
  have operates := session.operates direct slot operation
  generalize session.perform slot (.operate operation) = turn at operates ⊢
  cases operates with
  | vacant vacant => cases held.symm.trans vacant
  | misused also ran =>
    cases held.symm.trans also
    refine (Mount.perform_misused_writes handle ran).trans (if_neg ?_).symm
    exact fun granted => nomatch granted.2
  | gives also ran =>
    cases held.symm.trans also
    exact Mount.perform_writes handle ran

/-- What a step writes, the library keeps. -/
theorem perform_recalls (direct : session.Direct) (slot : String) {instruction : Instruction}
    {past : Handle → List (String × String)} (unarranged : instruction.unarranged = true)
    (honest : instruction.failsHonestly = true) (recalls : session.library.Recalls past) :
    let turn := session.perform slot instruction
    turn.session.library.Recalls fun handle =>
      past handle ++ Trace.writes session.library.surroundings handle turn.entries := by
  cases outside : instruction.isOutside with
  | true =>
    have same : session.library.Recalls fun handle => past handle ++ [] :=
      recalls.of_same fun _ => List.append_nil _
    cases instruction with
    | control control =>
      cases control with
      | arrange arrangement times => cases unarranged
      | fail call code => exact same.failNext call (bne_iff_ne.mp honest)
      | _ => exact same.of_kept rfl rfl fun _ _ laid => laid
    | setFlag mounted =>
      exact withHandle_turn (motive := fun turn => turn.session.library.Recalls fun handle =>
        past handle ++ Trace.writes session.library.surroundings handle turn.entries)
        slot same fun handle => same.setMountedFlag handle mounted
    | _ => cases outside
  | false =>
    let Relates (before : Library) (entries : List Entry) (after : Library) : Prop :=
      ∀ past, before.Recalls past → after.surroundings = before.surroundings ∧
        after.Recalls fun handle => past handle ++ Trace.writes before.surroundings handle entries
    have composes : Library.Composes Relates := by
      constructor
      case refl => exact fun _ past recalls => ⟨rfl, recalls.of_same fun _ => List.append_nil _⟩
      case trans =>
        intro first entries second more third left right past recalls
        obtain ⟨same, between⟩ := left past recalls
        obtain ⟨kept, later⟩ := right _ between
        rw [same] at kept later
        refine ⟨kept, later.of_same fun handle => ?_⟩
        rw [Trace.writes_append, List.append_assoc]
    have related : session.Relates Relates (session.perform slot instruction) :=
      perform_relates composes direct slot outside
        fun {_ program} _ library past recalls => recalls.run program
    exact (related past recalls).2

/-- What steps write, the library keeps behind what was written before. -/
theorem after_recalls (direct : session.Direct) {past : Handle → List (String × String)}
    (unarranged : ∀ step ∈ steps, step.instruction.unarranged = true)
    (honest : ∀ step ∈ steps, step.instruction.failsHonestly = true)
    (recalls : session.library.Recalls past) :
    (session.after steps).library.Recalls fun handle => past handle ++ session.writes handle steps := by
  refine unarranged_induction (motive := fun session steps => ∀ past,
    (∀ step ∈ steps, step.instruction.failsHonestly = true) → session.library.Recalls past →
      (session.after steps).library.Recalls fun handle => past handle ++ session.writes handle steps)
    (fun _ past _ recalls => recalls.of_same fun _ => List.append_nil _) ?_ direct unarranged past honest
    recalls
  intro session first rest direct own later past honest recalls
  have kept := perform_recalls direct first.slot own (honest first List.mem_cons_self) recalls
  have behind := later _ (fun step member => honest step (List.mem_cons_of_mem first member)) kept
  exact behind.of_same fun _ => (List.append_assoc ..).symm

theorem resultOf_recall {record : Record} {writes : List (String × String)} (key : String)
    (options : record.options = Table.empty.insertAll writes) :
    resultOf ((record.recall key 65536).map .text) = .recalled (lastWrite key writes) := by
  rw [Record.recall, options, get?_insertAll, Table.get?_empty, Option.or_none]
  cases lastWrite key writes with
  | none => rfl
  | some value =>
    have room : (Utf8.encode value).length < 65536 ↔ (Utf8.encode value).length ≤ 65535 := Nat.lt_succ_iff
    by_cases fits : (Utf8.encode value).length ≤ 65535
    · simp only [Result.recalled, room, fits, if_true]
      rfl
    · simp only [Result.recalled, room, fits, if_false]
      rfl

/-- A look-up gives what the writes on the mount's handle leave of the key. -/
theorem getOption_result (direct : session.Direct) {slot key : String} {mount : Mount} {record : Record}
    {past : Handle → List (String × String)} (recalls : session.library.Recalls past)
    (held : session.mounts.get? slot = some mount)
    (found : session.library.record? mount.handle = some record) (unbroken : '\x00' ∉ key.toList) :
    (session.perform slot (.operate (.getOption key))).result =
      .recalled (lastWrite key (past mount.handle)) := by
  obtain ⟨entries, ran⟩ := mount.getOption_recalls unbroken found
  rw [operate_of_run direct held ran]
  exact resultOf_recall key (recalls.options _ _ found)

/-- What is set and granted crossed, so it holds no NUL. -/
theorem option_unbroken (direct : session.Direct) {slot key value : String}
    (granted : (session.perform slot (.operate (.configure (.option key value)))).result =
      .answer .nothing) : '\x00' ∉ key.toList ∧ '\x00' ∉ value.toList := by
  have operates := session.operates direct slot (.configure (.option key value))
  generalize session.perform slot (.operate (.configure (.option key value))) = turn at granted operates
  cases operates with
  | vacant vacant => cases granted
  | misused held ran => cases granted
  | @gives mount left outcome entries after held ran =>
    cases mount.course (.configure (.option key value)) with
    | rejected rejected is =>
      rw [is] at ran
      cases ran
      cases granted
    | concludes asks concludes =>
      cases asks with
      | configure asks => exact asks.unbroken

/-- The writes of a run of steps around one that operates on a mount. -/
theorem writes_operate (direct : session.Direct) {early : List Step} (late : List Step) {slot : String}
    (operation : Operation) {mount : Mount} (handle : Handle)
    (unarranged : ∀ step ∈ early, step.instruction.unarranged = true)
    (held : (session.after early).mounts.get? slot = some mount) :
    let step : Step := ⟨slot, .operate operation⟩
    session.writes handle (early ++ step :: late) =
      session.writes handle early ++
        ((if mount.handle = handle ∧
            ((session.after early).perform slot step.instruction).result = .answer .nothing then
          operation.writes (session.after early).library.surroundings else []) ++
        (session.after (early ++ [step])).writes handle late) := by
  intro step
  have own := operate_writes (after_balances direct unarranged).1 operation handle held
  rw [writes_append, writes, after_append, ← own]
  rfl

/-- After any steps a look-up on a live handle gives the last of the values that were written there, as
far as its first NUL and its length allow. A step that operates on a mount writes what it sets, and only
if it is granted. So a value that was set as an option is read back as it is until its key is written
again. -/
theorem options_recalled (steps : List Step)
    (unarranged : ∀ step ∈ steps, step.instruction.unarranged = true)
    (honest : ∀ step ∈ steps, step.instruction.failsHonestly = true) :
    let session := ({} : Session).after steps
    (∀ slot mount record key, session.mounts.get? slot = some mount →
        session.library.record? mount.handle = some record → '\x00' ∉ key.toList →
        (session.perform slot (.operate (.getOption key))).result =
          .recalled (lastWrite key (({} : Session).writes mount.handle steps))) ∧
      ∀ early slot operation late mount, steps = early ++ ⟨slot, .operate operation⟩ :: late →
        let before := ({} : Session).after early
        let between := ({} : Session).after (early ++ [⟨slot, .operate operation⟩])
        let granted := (before.perform slot (.operate operation)).result = .answer .nothing
        before.mounts.get? slot = some mount →
        (∀ handle, ({} : Session).writes handle steps =
            ({} : Session).writes handle early ++
              ((if mount.handle = handle ∧ granted then operation.writes before.library.surroundings
                else []) ++ between.writes handle late)) ∧
          ∀ key value, operation = .configure (.option key value) → granted →
            (Utf8.encode value).length ≤ 65535 →
            (∀ write ∈ between.writes mount.handle late, write.1 ≠ key) →
            ∀ other current record, session.mounts.get? other = some current →
              session.library.record? current.handle = some record → current.handle = mount.handle →
              (session.perform other (.operate (.getOption key))).result = .answer (.text value) := by
  intro session
  have direct := (after_balances start_direct unarranged).1
  have recalls : session.library.Recalls fun handle => ({} : Session).writes handle steps :=
    after_recalls start_direct unarranged honest (Library.recalls_iff.mpr .initial)
  have recalled (slot : String) (mount : Mount) (record : Record) (key : String)
      (held : session.mounts.get? slot = some mount)
      (found : session.library.record? mount.handle = some record) (unbroken : '\x00' ∉ key.toList) :
      (session.perform slot (.operate (.getOption key))).result =
        .recalled (lastWrite key (({} : Session).writes mount.handle steps)) :=
    getOption_result direct recalls held found unbroken
  refine ⟨recalled, ?_⟩
  rintro early slot operation late mount rfl before between granted held
  have earlier : ∀ step ∈ early, step.instruction.unarranged = true := fun step member =>
    unarranged step (List.mem_append_left _ member)
  have wrote := fun handle => writes_operate start_direct late operation handle earlier held
  refine ⟨wrote, ?_⟩
  rintro key value rfl grant fits unwritten other current record also found same
  obtain ⟨named, whole⟩ := option_unbroken (after_balances start_direct earlier).1 grant
  rw [recalled other current record key also found named, same, wrote, if_pos ⟨rfl, grant⟩]
  -- What is granted is one write, and the last one of its key.
  change Result.recalled (lastWrite key (_ ++ ([(key, value)] ++ _))) = _
  rw [lastWrite_of_written _ unwritten, Result.recalled, if_pos fits, beforeNul_of_unbroken whole]

/-- A key is set, fails to be set, and is given twice by a variable whose last value holds a NUL; a
value with a NUL is not set at all. Another key is given by the variable and then set, and a third only
on another mount. -/
theorem rewritten_options_recalled :
    let early : List Step :=
      [⟨"a", .create (.fresh none)⟩, ⟨"b", .create (.fresh none)⟩,
        ⟨"", .control (.variable "ARGS" "--color=red --size 3 --color=blue\x00s")⟩,
        ⟨"a", .operate (.configure (.option "color" "green"))⟩,
        ⟨"", .control (.fail "conf_set" (-5))⟩,
        ⟨"a", .operate (.configure (.option "color" "black"))⟩,
        ⟨"a", .operate (.configure (.environment (some "ARGS")))⟩,
        ⟨"a", .operate (.configure (.option "color" "\x00"))⟩]
    let size : Operation := .configure (.option "size" "größe")
    let late : List Step := [⟨"b", .operate (.configure (.option "shape" "round"))⟩]
    let steps := early ++ ⟨"a", .operate size⟩ :: late
    let session := ({} : Session).after steps
    (∀ step ∈ steps, step.instruction.unarranged = true ∧ step.instruction.failsHonestly = true) ∧
      ({} : Session).writes ⟨1⟩ steps =
        [("color", "green"), ("color", "red"), ("size", "3"), ("color", "blue\x00s"),
          ("size", "größe")] ∧
      (session.perform "a" (.operate (.getOption "color"))).result = .answer (.text "blue") ∧
      (session.perform "a" (.operate (.getOption "shape"))).result = .failed (.library ⟨-2⟩) ∧
      (session.perform "a" (.operate (.getOption "size"))).result = .answer (.text "größe") := by
  intro early size late steps session
  have plain : ∀ step ∈ steps,
      step.instruction.unarranged = true ∧ step.instruction.failsHonestly = true := by decide
  obtain ⟨recalled, kept⟩ := options_recalled steps (fun step member => (plain step member).1)
    fun step member => (plain step member).2
  have wrote : ({} : Session).writes ⟨1⟩ steps =
      [("color", "green"), ("color", "red"), ("size", "3"), ("color", "blue\x00s"),
        ("size", "größe")] := by decide +kernel
  have first : (({} : Session).after early).mounts.get? "a" = some ⟨⟨1⟩, .configured⟩ := by
    decide +kernel
  have held : session.mounts.get? "a" = some ⟨⟨1⟩, .configured⟩ := by decide +kernel
  have live : session.library.isLive ⟨1⟩ = true := by decide +kernel
  obtain ⟨record, found⟩ := Option.isSome_iff_exists.mp live
  refine ⟨plain, wrote, ?_, ?_, ?_⟩
  · rw [recalled "a" _ record "color" held found (by decide), wrote]
    decide +kernel
  · rw [recalled "a" _ record "shape" held found (by decide), wrote]
    decide
  · obtain ⟨-, reads⟩ := kept early "a" size late _ rfl first
    exact reads "size" "größe" rfl (by decide +kernel) (by decide +kernel) (by decide +kernel) "a" _ record
      held found rfl

end Session

end CephMount
