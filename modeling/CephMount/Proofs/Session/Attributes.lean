import CephMount.Proofs.InMemory.Attributes
import CephMount.Proofs.Resolution
import CephMount.Proofs.Session.Agreement
import CephMount.Proofs.Session.Directories
import CephMount.Proofs.Session.Runs

/-! Modes and owners over whole sessions.

What a step changes on a handle is what it asks for there, with its path resolved where the handle
stands, and only if it is granted. Whatever else happens, the attributes of every directory are those
that it was given last. Nothing is arranged in front of the library, and no failure is laid up that says
success.
-/

set_option autoImplicit false

namespace CephMount

open InMemory

/-! Calls and programs. -/

/-- A call that can change no attributes, whatever it is answered. -/
def Call.Changeless : Call → Prop
  | .request _ asked => asked.change? = fun _ => none
  | _ => True

theorem Call.Unasking.changeless {call : Call} (unasking : call.Unasking) : call.Changeless := by
  cases call with
  | request holder request =>
    obtain rfl := unasking
    exact rfl
  | _ => exact trivial

theorem Setting.request_change? {setting : Setting} {request : Request}
    (accepted : setting.request = .ok request) : request.change? = fun _ => none := by
  rcases setting.request_cases with ⟨other, crossed, asks⟩ | ⟨offset, crossed, broken⟩
  · cases accepted.symm.trans crossed
    exact Operation.Asks.change?_eq (.configure asks)
  · cases accepted.symm.trans crossed

/-- Making a mount and giving one up change no attributes. -/
theorem Creation.program_changeless (creation : Creation) :
    creation.program.Within Call.Changeless fun _ => True := by
  refine creation.program_calls_within (fun call creates => ?_)
    (fun _ _ _ accepted => Setting.request_change? accepted) (fun _ => rfl) fun _ => rfl
  cases call with
  | request handle request => cases creates
  | _ => exact trivial

namespace InMemory.Library

variable {library after : Library} {past : Handle → List Change}

/-- What is changed on a handle, where the texts of its paths lead. -/
def changed (library : Library) (handle : Handle) (change? : (String → Path) → Option Change) :
    List Change :=
  ((library.record? handle).bind fun record => change? record.resolve).toList

/-- A request that is granted changes what it asks for on its handle. -/
theorem notes_changes (library : Library) (handle holder : Handle) (request : Request) (code : Int32) :
    library.notes (fun _ => Record.changes) handle (.request holder request) code =
      if holder = handle ∧ code = 0 then library.changed holder request.change? else [] := by
  rw [notes, changed]
  cases library.record? holder <;> rfl

namespace Tells

/-- Calls that can change no attributes leave what is told, also where one is refused. -/
theorem run_changeless {α : Type} {program : Program α} {post : α → Prop}
    (tells : library.Tells Record.AttributesTold past) (within : program.Within Call.Changeless post) :
    (program.run answer library).state.Tells Record.AttributesTold past := by
  let kept (state : Library) : Prop := state.Tells Record.AttributesTold past
  have step (call : Call) (state : Library) (changeless : call.Changeless) (tells : kept state) :
      kept (answer call state).2 := by
    refine Tells.silent Record.attributesTold_telling tells fun holder request is _ record => ?_
    subst is
    have none : request.change? = fun _ => none := changeless
    rw [Record.changes, none]
    rfl
  have left : kept (program.run answer library).state := within.run_keeps step tells
  exact left

end Tells

end InMemory.Library

namespace Mount

variable {mount left : Mount} {operation : Operation} {library after : Library} {entries : List Entry}
  {past : Handle → List Change}

/-- An operation that comes to an end has changed what it asks for if it was granted, and else
nothing. -/
theorem perform_changes {outcome : Outcome Answer} (tells : library.Tells Record.AttributesTold past)
    (ran : (mount.perform operation).run Library.answer library = ⟨.ok (outcome, left), entries, after⟩) :
    after.Tells Record.AttributesTold fun handle => past handle ++
      if mount.handle = handle ∧ Session.resultOf outcome = .answer .nothing then
        library.changed handle operation.change?
      else [] := by
  rcases mount.concludes_or_unasking operation with ⟨request, asks, concludes⟩ | unasking
  · obtain ⟨code, answered, concluded, -⟩ := concludes.run_once ran
    refine (Library.Tells.answered Record.attributesTold_telling tells answered).of_same fun handle => ?_
    simp only [Library.notes_changes, asks.change?_eq, granted_iff concluded]
    by_cases own : mount.handle = handle
    · rw [own]
    · rw [if_neg fun both => own both.1, if_neg fun both => own both.1]
  · have kept := tells.run_changeless (unasking.widen fun _ => Call.Unasking.changeless)
    rw [ran] at kept
    have other := unasking.run_post (congrArg Run.result ran)
    refine kept.of_same fun handle => ?_
    rw [if_neg, List.append_nil]
    rintro ⟨-, granted⟩
    cases outcome <;> cases granted
    exact other rfl

/-- An operation that is cut short has changed nothing. -/
theorem perform_misused_changes {misuse : Misuse} (tells : library.Tells Record.AttributesTold past)
    (ran : (mount.perform operation).run Library.answer library = ⟨.error misuse, entries, after⟩) :
    after.Tells Record.AttributesTold past := by
  rcases mount.concludes_or_unasking operation with ⟨request, asks, concludes⟩ | unasking
  · exact Library.Tells.refused Record.attributesTold_telling tells (concludes.run_refused ran).1
  · have kept := tells.run_changeless (unasking.widen fun _ => Call.Unasking.changeless)
    rwa [ran] at kept

end Mount

namespace Session

/-! What steps change. -/

/-- What a step changes on a handle: what it asks for there, if it is granted. -/
def changesBy (session : Session) (handle : Handle) (step : Step) : List Change :=
  let result := (session.perform step.slot step.instruction).result
  match step.instruction with
  | .operate operation =>
    if (session.mounts.get? step.slot).map Mount.handle = some handle ∧ result = .answer .nothing then
      session.library.changed handle operation.change?
    else []
  | .around request =>
    if session.handles.get? step.slot = some handle ∧ result = .code 0 then
      session.library.changed handle request.change?
    else []
  | _ => []

/-- What steps change on a handle, in order. -/
def changes (session : Session) (handle : Handle) : List Step → List Change
  | [] => []
  | first :: rest => session.changesBy handle first ++ (session.step first).2.changes handle rest

variable {session : Session} {steps : List Step} {past : Handle → List Change}

/-- The attributes of every directory are told by what was changed, and by what the step changes. -/
def Follows (session : Session) (past : Handle → List Change) (step : Step) : Prop :=
  (session.perform step.slot step.instruction).session.library.Tells Record.AttributesTold
    fun handle => past handle ++ session.changesBy handle step

theorem operate_follows (direct : session.Direct) (tells : session.library.Tells Record.AttributesTold past)
    (slot : String) (operation : Operation) : session.Follows past ⟨slot, .operate operation⟩ := by
  have operates := session.operates direct slot operation
  simp only [Follows, changesBy]
  generalize session.perform slot (.operate operation) = turn at operates ⊢
  cases operates with
  | vacant vacant =>
    refine tells.of_same fun handle => ?_
    rw [if_neg (fun both => by cases both.2), List.append_nil]
  | misused held ran =>
    refine (Mount.perform_misused_changes tells ran).of_same fun handle => ?_
    rw [if_neg (fun both => by cases both.2), List.append_nil]
  | gives held ran =>
    refine (Mount.perform_changes tells ran).of_same fun handle => ?_
    simp only [held, Option.map_some, Option.some.injEq]

theorem around_follows (direct : session.Direct) (tells : session.library.Tells Record.AttributesTold past)
    (slot : String) (request : Request) : session.Follows past ⟨slot, .around request⟩ := by
  simp only [Follows, changesBy]
  cases held : session.handles.get? slot with
  | none =>
    rw [show session.perform slot (.around request) = session.quiet .noHandle by rw [perform, withHandle, held]]
    refine tells.of_same fun handle => ?_
    rw [if_neg (fun both => by cases both.1), List.append_nil]
  | some holder =>
    have is : session.perform slot (.around request) =
        session.run (Program.perform (.request holder request)) fun session code =>
          (session, .code code) := by rw [perform, withHandle, held]
    rw [is, run_alone direct]
    simp only [Program.perform, Program.run]
    cases answered : Library.answer (.request holder request) session.library with
    | mk result after =>
      cases result with
      | error misuse =>
        refine (Library.Tells.refused Record.attributesTold_telling tells answered).of_same fun handle => ?_
        rw [if_neg (fun both => by cases both.2), List.append_nil]
      | ok code =>
        refine (Library.Tells.answered Record.attributesTold_telling tells answered).of_same fun handle => ?_
        rw [Library.notes_changes]
        by_cases own : holder = handle
        · simp [own]
        · simp [own]

/-- What a step that asks for no change leaves is told by what was changed before. -/
theorem other_follows (direct : session.Direct) (tells : session.library.Tells Record.AttributesTold past)
    {step : Step} (unarranged : step.instruction.unarranged = true)
    (honest : step.instruction.failsHonestly = true)
    (operates : ∀ operation, step.instruction ≠ .operate operation)
    (around : ∀ request, step.instruction ≠ .around request) : session.Follows past step := by
  obtain ⟨slot, instruction⟩ := step
  have nothing (handle : Handle) : session.changesBy handle ⟨slot, instruction⟩ = [] := by
    cases instruction with
    | operate operation => exact absurd rfl (operates operation)
    | around request => exact absurd rfl (around request)
    | _ => rfl
  suffices kept : (session.perform slot instruction).session.library.Tells Record.AttributesTold past from
    kept.of_same fun handle => by rw [nothing, List.append_nil]
  -- What comes from outside is no program; any other step runs programs that change nothing.
  cases outside : instruction.isOutside with
  | true =>
    cases instruction with
    | control control =>
      cases control with
      | arrange arrangement times => cases unarranged
      | fail call code => exact tells.failNext call (bne_iff_ne.mp honest)
      | _ => exact tells.of_kept rfl rfl fun _ _ laid => laid
    | setFlag mounted =>
      exact withHandle_turn (motive := fun turn => turn.session.library.Tells Record.AttributesTold past) slot
        tells fun handle => Library.Tells.setMountedFlag Record.attributesTold_telling tells handle mounted
    | _ => cases outside
  | false =>
    have composes : Library.Composes fun before _ after =>
        before.Tells Record.AttributesTold past → after.Tells Record.AttributesTold past :=
      ⟨fun _ => id, fun _ _ _ _ _ left right => right ∘ left⟩
    refine perform_relates composes direct slot outside (fun runs library tells => ?_) tells
    cases runs with
    | around => exact absurd rfl (around _)
    | operates => exact absurd rfl (operates _)
    | creates => exact tells.run_changeless (Creation.program_changeless _)
    | vacates | drops => exact tells.run_changeless (Mount.drop_calls_within _ rfl rfl)
    | releases => exact tells.run_changeless (Mount.release_calls_within _ rfl rfl)

theorem perform_follows (direct : session.Direct)
    (tells : session.library.Tells Record.AttributesTold past) (step : Step)
    (unarranged : step.instruction.unarranged = true) (honest : step.instruction.failsHonestly = true) :
    session.Follows past step := by
  obtain ⟨slot, instruction⟩ := step
  cases instruction with
  | operate operation => exact operate_follows direct tells slot operation
  | around request => exact around_follows direct tells slot request
  | _ => exact other_follows direct tells unarranged honest nofun nofun

/-- What steps change tells the attributes of every directory behind what was changed before. -/
theorem after_follows (direct : session.Direct) (tells : session.library.Tells Record.AttributesTold past)
    (unarranged : ∀ step ∈ steps, step.instruction.unarranged = true)
    (honest : ∀ step ∈ steps, step.instruction.failsHonestly = true) :
    (session.after steps).library.Tells Record.AttributesTold
      fun handle => past handle ++ session.changes handle steps := by
  refine unarranged_induction (motive := fun session steps => ∀ past,
    (∀ step ∈ steps, step.instruction.failsHonestly = true) →
      session.library.Tells Record.AttributesTold past →
      (session.after steps).library.Tells Record.AttributesTold
        fun handle => past handle ++ session.changes handle steps)
    (fun _ past _ tells => tells.of_same fun _ => List.append_nil _) ?_ direct unarranged past honest tells
  -- What the first step changes belongs to the past of the rest.
  intro session first rest direct own later past honest tells
  have follows := perform_follows direct tells first own (honest first List.mem_cons_self)
  have behind := later _ (fun step member => honest step (List.mem_cons_of_mem first member)) follows
  exact behind.of_same fun _ => (List.append_assoc ..).symm

end Session

namespace InMemory.Attributes.ToldBy

variable {path : Path} {past added : List Change} {old new : Attributes}

/-- A mode that is another one behind more changes was given by one of them. -/
theorem exists_mode (before : old.ToldBy path past) (after : new.ToldBy path (past ++ added))
    (changed : new.mode ≠ old.mode) : ∃ change ∈ added, change.mode? path = some new.mode := by
  have later := after.mode
  rw [Change.latest_append, Option.or_assoc, ← before.mode] at later
  cases last : Change.latest (Change.mode? path) added with
  | none =>
    rw [last] at later
    exact absurd (Option.some.inj later) changed
  | some mode =>
    rw [last] at later
    cases later
    exact Change.exists_of_latest last

/-- So was an owner that is another one. -/
theorem exists_owner (before : old.ToldBy path past) (after : new.ToldBy path (past ++ added))
    (changed : (new.uid, new.gid) ≠ (old.uid, old.gid)) :
    ∃ change ∈ added, change.owner? path = some (new.uid, new.gid) := by
  have later := after.owner
  rw [Change.latest_append] at later
  cases last : Change.latest (Change.owner? path) added with
  | none =>
    rw [last, Option.none_or, ← before.owner] at later
    exact absurd later changed
  | some owner =>
    rw [last, Option.some_or, Option.getD_some] at later
    exact later ▸ Change.exists_of_latest last

end InMemory.Attributes.ToldBy

namespace Session

/-- After any steps the directories on a live handle have the modes that they were given last, made or
set, and the owners that they were given last since they were made. A step that changes a mode or an
owner gives the new one to that directory. -/
theorem attributes_follow_changes (steps : List Step)
    (unarranged : ∀ step ∈ steps, step.instruction.unarranged = true)
    (honest : ∀ step ∈ steps, step.instruction.failsHonestly = true) :
    let session := ({} : Session).after steps
    (∀ handle record, session.library.record? handle = some record →
        (∀ path, record.directories.contains path = true → record.resolve path.text = path ∧
            (session.library.attributes? handle path.text).isSome = true) ∧
          ∀ text attributes, session.library.attributes? handle text = some attributes →
            attributes.ToldBy (record.resolve text) (({} : Session).changes handle steps)) ∧
      ∀ step : Step, step.instruction.unarranged = true → step.instruction.failsHonestly = true →
        ∀ handle text other old new record left, session.library.record? handle = some record →
          (session.step step).2.library.record? handle = some left →
          left.resolve other = record.resolve text →
          session.library.attributes? handle text = some old →
          (session.step step).2.library.attributes? handle other = some new →
          (new.mode ≠ old.mode →
              ∃ change ∈ session.changesBy handle step,
                change.mode? (record.resolve text) = some new.mode) ∧
            ((new.uid, new.gid) ≠ (old.uid, old.gid) →
              ∃ change ∈ session.changesBy handle step,
                change.owner? (record.resolve text) = some (new.uid, new.gid)) := by
  intro session
  have direct : session.Direct := (after_balances start_direct unarranged).1
  have tells : session.library.Tells Record.AttributesTold fun handle => ({} : Session).changes handle steps :=
    after_follows start_direct .initial unarranged honest
  have looked {library : Library} {handle : Handle} {record : Record} {text : String}
      {attributes : Attributes} (found : library.record? handle = some record)
      (shown : library.attributes? handle text = some attributes) :
      record.directories.get? (record.resolve text) = some attributes := by
    rw [Library.attributes?, found] at shown
    exact shown
  constructor
  · intro handle record found
    refine ⟨fun path there => ?_, fun text attributes shown => ?_⟩
    · have tree := (directories_form_tree steps handle record found).1
      have leads : record.resolve path.text = path :=
        Path.resolve_text (tree.normal path (Table.mem_keys_iff.mpr there)) record.workingDir.text
      refine ⟨leads, ?_⟩
      rw [Library.attributes?, found]
      change (record.directories.get? (record.resolve path.text)).isSome = true
      rw [leads]
      exact there
    · exact tells.told handle record found _ attributes (looked found shown)
  · intro step own fails handle text other old new record left found stays same before after
    have follows := perform_follows direct tells step own fails
    have toldOld := tells.told handle record found _ old (looked found before)
    have toldNew := follows.told handle left stays _ new (looked stays after)
    rw [same] at toldNew
    exact ⟨toldOld.exists_mode toldNew, toldOld.exists_owner toldNew⟩

/-- A directory is removed and made again below a working directory, which is given a mode and an owner
whose numbers are the largest ones. An owner fails to be set, the root is given one around the mount,
and on another handle a mode is set that is not this root's. -/
theorem remade_attributes_follow_changes :
    let root : Terminated := .upToNul [47]
    let steps : List Step :=
      [⟨"a", .create (.fresh none)⟩, ⟨"a", .operate .mount⟩,
        ⟨"a", .operate (.path (.make "a" 0o41700))⟩,
        ⟨"a", .operate (.path (.setOwner "/a/" 4294967295 2147483648))⟩,
        ⟨"a", .operate (.path (.enter "a"))⟩, ⟨"a", .operate (.path (.make "b" 0o700))⟩,
        ⟨"a", .operate (.path (.setOwner "../a/./b" 7 8))⟩, ⟨"a", .operate (.path (.remove "b"))⟩,
        ⟨"a", .operate (.path (.make "b" 0o711))⟩, ⟨"", .control (.fail "chown" (-5))⟩,
        ⟨"a", .operate (.path (.setOwner "b" 1 1))⟩,
        ⟨"a", .operate (.path (.setMode "b/.." 0o11777))⟩, ⟨"b", .create (.fresh none)⟩,
        ⟨"b", .operate .mount⟩, ⟨"b", .operate (.path (.setMode "/" 0))⟩,
        ⟨"a", .around (.chown root (-1) 5)⟩, ⟨"a", .operate .unmount⟩, ⟨"a", .operate .mount⟩]
    let session := ({} : Session).after steps
    let changes : List Change :=
      [.made ["a"] 0o41700, .owned ["a"] 4294967295 2147483648, .made ["a", "b"] 0o700,
        .owned ["a", "b"] 7 8, .made ["a", "b"] 0o711, .moded ["a"] 0o11777, .owned [] 4294967295 5]
    let shown := [("/a", ["a"], (⟨0o1777, 4294967295, 2147483648⟩ : Attributes)),
      ("b", ["a", "b"], ⟨0o711, 0, 0⟩), ("..", [], ⟨0o755, 4294967295, 5⟩)]
    let further : Step := ⟨"a", .operate (.path (.setMode "/a/b" 0o4000))⟩
    (∀ entry ∈ shown, session.library.attributes? ⟨1⟩ entry.1 = some entry.2.2 ∧
        entry.2.2.ToldBy entry.2.1 changes) ∧
      session.library.attributes? ⟨2⟩ "/" = some ⟨0, 0, 0⟩ ∧
      (session.step further).2.library.attributes? ⟨1⟩ "b" = some ⟨0o4000, 0, 0⟩ ∧
      ∃ change ∈ session.changesBy ⟨1⟩ further, change.mode? ["a", "b"] = some 0o4000 := by
  intro root steps session changes shown further
  obtain ⟨follow, changed⟩ := attributes_follow_changes steps (by decide) (by decide)
  have wrote : ({} : Session).changes ⟨1⟩ steps = changes := by decide +kernel
  have given : ∀ entry ∈ shown, session.library.attributes? ⟨1⟩ entry.1 = some entry.2.2 := by
    decide +kernel
  have leads : ∀ entry ∈ shown, (session.library.record? ⟨1⟩).map (fun record =>
      record.resolve entry.1) = some entry.2.1 := by decide +kernel
  have live : session.library.isLive ⟨1⟩ = true := by decide +kernel
  have stays : (session.step further).2.library.isLive ⟨1⟩ = true := by decide +kernel
  obtain ⟨record, found⟩ := Option.isSome_iff_exists.mp live
  obtain ⟨left, kept⟩ := Option.isSome_iff_exists.mp stays
  have later : (session.step further).2.library.attributes? ⟨1⟩ "b" = some ⟨0o4000, 0, 0⟩ := by
    decide +kernel
  have resolves (entry : String × Path × Attributes) (member : entry ∈ shown) :
      record.resolve entry.1 = entry.2.1 := by
    have own := leads entry member
    rw [found] at own
    exact Option.some.inj own
  refine ⟨fun entry member => ⟨given entry member, ?_⟩, by decide +kernel, later, ?_⟩
  · rw [← wrote, ← resolves entry member]
    exact (follow ⟨1⟩ record found).2 entry.1 entry.2.2 (given entry member)
  · let remade : String × Path × Attributes := ("b", ["a", "b"], ⟨0o711, 0, 0⟩)
    have member : remade ∈ shown := by decide
    have leadsTo : record.resolve "b" = ["a", "b"] := resolves remade member
    have before : session.library.attributes? ⟨1⟩ "b" = some ⟨0o711, 0, 0⟩ := given remade member
    have ahead : ((session.step further).2.library.record? ⟨1⟩).map (fun record =>
        record.resolve "b") = some ["a", "b"] := by decide +kernel
    rw [kept] at ahead
    have same : left.resolve "b" = record.resolve "b" := (Option.some.inj ahead).trans leadsTo.symm
    have gave := changed further (by decide) (by decide) ⟨1⟩ "b" "b" ⟨0o711, 0, 0⟩ ⟨0o4000, 0, 0⟩ record left
      found kept same before later
    rw [leadsTo] at gave
    exact gave.1 (by decide)

end Session

end CephMount
