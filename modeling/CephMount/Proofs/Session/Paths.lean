import CephMount.Proofs.Resolution
import CephMount.Proofs.InMemory.Failures
import CephMount.Proofs.Session.Runs

/-! Operations on paths in a session, one behind the other.

While no failure is laid up for it, an operation on a path is granted exactly when the record of its
mount allows it, and the record is then all that changes. So two of them in a row come to what their
effects on the record come to: entering a directory in two steps is entering it in one.
-/

set_option autoImplicit false

namespace CephMount

open InMemory

namespace PathOperation

/-- The name of the request that an operation makes, whatever its path is. -/
def call : PathOperation → String
  | enter _ => "chdir"
  | make _ _ => "mkdir"
  | remove _ => "rmdir"
  | setMode _ _ => "chmod"
  | setOwner _ _ _ => "chown"

theorem failureName?_requestOn (operation : PathOperation) (path : Terminated) :
    Library.failureName? (operation.requestOn path) = some operation.call := by
  cases operation <;> rfl

end PathOperation

namespace InMemory

namespace Record

/-- What an operation makes of a record, if the record allows it. -/
def operate (record : Record) (operation : PathOperation) : Except Errno Record :=
  record.whenMounted <| match operation with
    | .enter path => record.enter (record.resolve path)
    | .make path mode => record.makeDir (record.resolve path) mode
    | .remove path => record.removeDir (record.resolve path)
    | .setMode path mode => record.setAttributes (record.resolve path) fun attributes =>
        { attributes with mode := mode &&& modeMask }
    | .setOwner path uid gid => record.setAttributes (record.resolve path) fun attributes =>
        { attributes with uid, gid }

/-- Numbers of owners cross as signed ones, and come back as they were. -/
theorem serve_requestOn (record : Record) (surroundings : Surroundings) {operation : PathOperation}
    {path : Terminated} (spells : path.Spells operation.target) :
    record.serve surroundings (operation.requestOn path) = record.operate operation := by
  have text := spells.text_eq
  cases operation <;>
    (simp only [PathOperation.requestOn, serve, text, UInt32.toUInt32_toInt32]; rfl)

/-- A directory is entered if it is there and the handle is mounted. -/
theorem operate_enter_eq_ok_iff {record after : Record} {path : String} :
    record.operate (.enter path) = .ok after ↔
      record.mounted = true ∧ record.directories.contains (record.resolve path) = true ∧
        ∃ workingDir : Terminated, workingDir.Spells (record.resolve path).text ∧
          after = { record with workingDir } := by
  simp only [operate, whenMounted, enter]
  constructor
  · intro entered
    repeat' split at entered
    case h_1 mounted present _ text crossed =>
      cases entered
      exact ⟨mounted, by simpa using present, text, Terminated.ofText_eq_ok_iff.mp crossed, rfl⟩
    all_goals cases entered
  · rintro ⟨mounted, present, workingDir, spells, rfl⟩
    simp [mounted, present, Terminated.ofText_eq_ok_iff.mpr spells]

end Record

/-- With no failure laid up for it, what becomes of the request is up to the record. -/
theorem Library.request_of_unlaid {library : Library} {operation : PathOperation}
    (unlaid : library.failures.get? operation.call = none) (handle : Handle) (path : Terminated) :
    library.request handle (operation.requestOn path) = library.serve handle (operation.requestOn path) := by
  have taken : library.takeRequestFailure (operation.requestOn path) = (none, library) := by
    rw [takeRequestFailure, operation.failureName?_requestOn]
    exact takeFailure_of_none unlaid
  have unlessFailing : library.request handle (operation.requestOn path) =
      library.serveUnlessFailing handle (operation.requestOn path) := by
    cases operation <;> rfl
  rw [unlessFailing, serveUnlessFailing, taken]

end InMemory

namespace Session

/-- The session with another record for a handle. -/
def withRecord (session : Session) (handle : Handle) (record : Record) : Session :=
  session.withLibrary
    { session.library with records := session.library.records.insert handle.number record }

/-- All that an operation on a path needs: a mount in the slot, a live handle, a path that crosses, and
a record that allows it. -/
structure Grants (session : Session) (slot : String) (operation : PathOperation) (mount : Mount)
    (record after : Record) : Prop where
  held : session.mounts.get? slot = some mount
  found : session.library.record? mount.handle = some record
  unbroken : '\x00' ∉ operation.target.toList
  operates : record.operate operation = .ok after

variable {session : Session} {slot : String} {operation : PathOperation} {mount : Mount} {handle : Handle}
  {record after : Record}

theorem record?_withRecord (session : Session) (handle : Handle) (record : Record) :
    (session.withRecord handle record).library.record? handle = some record :=
  (Table.get?_insert ..).trans (if_pos rfl)

/-- Of two records for one handle the second one stays. -/
theorem withRecord_withRecord (session : Session) (handle : Handle) (first second : Record) :
    (session.withRecord handle first).withRecord handle second = session.withRecord handle second := by
  have records := Table.insert_insert session.library.records handle.number first second
  exact congrArg (fun records => session.withLibrary { session.library with records }) records

theorem withRecord_of_found (found : session.library.record? handle = some record) :
    session.withRecord handle record = session := by
  rw [withRecord, Table.insert_of_get?_eq_some found]
  rfl

/-- What has all that it needs is granted, and changes the record. -/
theorem operate_of_grants (direct : session.Direct)
    (grants : session.Grants slot operation mount record after)
    (unlaid : session.library.failures.get? operation.call = none) :
    ∃ entries, session.perform slot (.operate (.path operation)) =
      ⟨.answer .nothing, entries, session.withRecord mount.handle after⟩ := by
  obtain ⟨held, found, unbroken, operates⟩ := grants
  obtain ⟨path, crossed, spells⟩ := Terminated.ofText_of_unbroken unbroken
  have answered : Library.answer (.request mount.handle (operation.requestOn path)) session.library =
      (.ok 0, (session.withRecord mount.handle after).library) := by
    rw [Library.answer, Library.request_of_unlaid unlaid, Library.serve, found]
    simp only [record.serve_requestOn _ spells, operates]
    cases operation <;> rfl
  have concludes : mount.Concludes (.path operation) (operation.requestOn path) := by
    refine Mount.concludes_of_checked ?_ rfl
    rw [Mount.perform, Mount.atPath, operation.request_eq, crossed]
    rfl
  obtain ⟨result, entries, ran, rfl⟩ := concludes.run_answered answered
  -- The mount is put back as it was, for an operation on a path leaves its state.
  have stays : session.mounts.insert slot mount = session.mounts := Table.insert_of_get?_eq_some held
  refine ⟨entries, (operate_of_run direct held ran).trans ?_⟩
  simp only [Operation.advance, stays]
  rfl

/-- What is granted had all that it needs. -/
theorem grants_of_granted (direct : session.Direct)
    (granted : (session.perform slot (.operate (.path operation))).result = .answer .nothing)
    (unlaid : session.library.failures.get? operation.call = none) :
    ∃ mount record after, session.Grants slot operation mount record after := by
  have operates := session.operates direct slot (.path operation)
  generalize session.perform slot (.operate (.path operation)) = turn at granted operates
  cases operates with
  | vacant vacant => cases granted
  | misused held ran => cases granted
  | @gives mount left outcome entries after held ran =>
    cases mount.course (.path operation) with
    | rejected rejected is =>
      rw [is] at ran
      cases ran
      cases granted
    | concludes asks concludes =>
      cases asks with
      | path asks =>
        obtain ⟨path, spells, rfl⟩ := asks
        obtain ⟨code, answered, concluded, -⟩ := concludes.run_once ran
        have zero : code = 0 := (Mount.granted_iff concluded).mp granted
        rw [Library.answer, Library.request_of_unlaid unlaid, Library.serve, zero] at answered
        -- A dead handle and a record that refuses are answered with other codes.
        cases found : session.library.record? mount.handle with
        | none =>
          rw [found] at answered
          cases answered
        | some record =>
          simp only [found] at answered
          cases served : record.serve session.library.surroundings (operation.requestOn path) with
          | error errno =>
            simp only [served] at answered
            exact absurd (Except.ok.inj (congrArg Prod.fst answered)) (Record.serve_refused served)
          | ok after =>
            rw [record.serve_requestOn _ spells] at served
            exact ⟨mount, record, after, held, found, spells.text_unbroken, served⟩

/-- Two operations that are granted, one behind the other, are granted on one mount, the second one by the
record that the first one left. -/
theorem grants_of_granted_twice (direct : session.Direct) {next : PathOperation}
    (granted : (session.perform slot (.operate (.path operation))).result = .answer .nothing)
    (further : ((session.perform slot (.operate (.path operation))).session.perform slot
      (.operate (.path next))).result = .answer .nothing)
    (unlaid : session.library.failures.get? operation.call = none)
    (unlaidNext : session.library.failures.get? next.call = none) :
    ∃ mount record between after, session.Grants slot operation mount record between ∧
      (session.withRecord mount.handle between).Grants slot next mount between after ∧
      ((session.perform slot (.operate (.path operation))).session.perform slot
        (.operate (.path next))).session = session.withRecord mount.handle after := by
  obtain ⟨mount, record, between, grants⟩ := grants_of_granted direct granted unlaid
  obtain ⟨_, is⟩ := operate_of_grants direct grants unlaid
  have alone : (session.withRecord mount.handle between).Direct := direct.withLibrary _
  rw [is] at further ⊢
  obtain ⟨own, found, after, also⟩ := grants_of_granted alone further unlaidNext
  obtain ⟨_, nextIs⟩ := operate_of_grants alone also unlaidNext
  cases grants.held.symm.trans also.held
  cases (record?_withRecord session mount.handle between).symm.trans also.found
  exact ⟨mount, record, between, after, grants, also,
    (congrArg Turn.session nextIs).trans (withRecord_withRecord ..)⟩

/-- The working directory is told as it is recorded. -/
theorem currentDir_result (direct : session.Direct) (held : session.mounts.get? slot = some mount)
    (found : session.library.record? mount.handle = some record) :
    (session.perform slot (.operate .currentDir)).result = .answer (.text record.workingDir.text) := by
  have answered : Library.answer (.currentDir mount.handle) session.library =
      (.ok (some record.workingDir), session.library) := by
    simp only [Library.answer, Library.look, found]
  have opens : (mount.perform .currentDir).OpensWith (.currentDir mount.handle) (fun _ => False)
      fun told result => result = (.ok (.text ((told.map Terminated.text).getD "")), mount) :=
    ⟨_, rfl, fun _ => rfl⟩
  obtain ⟨result, entries, ran, rfl⟩ := opens.run_answered answered
  rw [operate_of_run direct held ran]
  rfl

/-- A directory that was entered by a text and then by a relative one is entered by both at once. -/
theorem enter_enter (direct : session.Direct) {path rest : String} (present : path ≠ "")
    (relative : Path.isAbsolute rest.toList = false)
    (unlaid : session.library.failures.get? "chdir" = none) :
    let first := session.perform slot (.operate (.path (.enter path)))
    let second := first.session.perform slot (.operate (.path (.enter rest)))
    let once := session.perform slot (.operate (.path (.enter (path ++ "/" ++ rest))))
    first.result = .answer .nothing → second.result = .answer .nothing →
      once.result = .answer .nothing ∧ once.session = second.session ∧
        ∃ mount record, session.mounts.get? slot = some mount ∧
          session.library.record? mount.handle = some record ∧
          (once.session.perform slot (.operate .currentDir)).result =
            .answer (.text (record.resolve (path ++ "/" ++ rest)).text) := by
  intro first second once entered further
  obtain ⟨mount, record, between, after, grants, also, ends⟩ :=
    grants_of_granted_twice direct entered further unlaid unlaid
  obtain ⟨mounted, -, workingDir, spells, rfl⟩ := Record.operate_enter_eq_ok_iff.mp grants.operates
  obtain ⟨-, there, reached, spellsReached, rfl⟩ := Record.operate_enter_eq_ok_iff.mp also.operates
  -- The working directory in between is given to the second step as text.
  have same : { record with workingDir }.resolve rest = record.resolve (path ++ "/" ++ rest) := by
    rw [Record.resolve, spells.text_eq]
    exact Path.resolve_resolve present relative record.workingDir.text
  rw [same] at there spellsReached
  have unbroken : '\x00' ∉ (path ++ "/" ++ rest).toList := by
    have left : '\x00' ∉ path.toList := grants.unbroken
    have right : '\x00' ∉ rest.toList := also.unbroken
    simp [left, right]
  have both : session.Grants slot (.enter (path ++ "/" ++ rest)) mount record
      { record with workingDir := reached } :=
    ⟨grants.held, grants.found, unbroken,
      Record.operate_enter_eq_ok_iff.mpr ⟨mounted, there, reached, spellsReached, rfl⟩⟩
  obtain ⟨_, is⟩ := operate_of_grants direct both unlaid
  let left := session.withRecord mount.handle { record with workingDir := reached }
  have alone : left.Direct := direct.withLibrary _
  have told : (left.perform slot (.operate .currentDir)).result = .answer (.text reached.text) :=
    currentDir_result alone grants.held (record?_withRecord ..)
  rw [spellsReached.text_eq] at told
  rw [show once = ⟨_, _, left⟩ from is]
  exact ⟨rfl, ends.symm, mount, record, grants.held, grants.found, told⟩

/-- Resolving a text gives a path in normal form, whose text is absolute and leads back to it from every
working directory. An absolute text leads to the same path from everywhere. What follows a slash in a
text may be resolved by itself, from the working directory that the text before the slash leads to. So
two directories that are entered one after the other can be entered at once, after any steps. -/
theorem resolution_composes (steps : List Step)
    (unarranged : ∀ step ∈ steps, step.instruction.unarranged = true) :
    let session := ({} : Session).after steps
    (∀ (record : Record) (text : String),
        let path := record.resolve text
        path.IsNormal ∧ Path.isAbsolute path.text.toList = true ∧
          (∀ other : Record, other.resolve path.text = path) ∧
          (Path.isAbsolute text.toList = true → ∀ other : Record, other.resolve text = path) ∧
          ∀ (rest : String) (entered : Record), text ≠ "" → Path.isAbsolute rest.toList = false →
            entered.workingDir.text = path.text →
            entered.resolve rest = record.resolve (text ++ "/" ++ rest)) ∧
      ∀ slot path rest, path ≠ "" → Path.isAbsolute rest.toList = false →
        session.library.failures.get? "chdir" = none →
        let first := session.perform slot (.operate (.path (.enter path)))
        let second := first.session.perform slot (.operate (.path (.enter rest)))
        let once := session.perform slot (.operate (.path (.enter (path ++ "/" ++ rest))))
        first.result = .answer .nothing → second.result = .answer .nothing →
        once.result = .answer .nothing ∧ once.session = second.session ∧
          ∃ mount record, session.mounts.get? slot = some mount ∧
            session.library.record? mount.handle = some record ∧
            (once.session.perform slot (.operate .currentDir)).result =
              .answer (.text (record.resolve (path ++ "/" ++ rest)).text) := by
  intro session
  constructor
  · intro record text path
    have normal : path.IsNormal := Path.resolve_isNormal record.workingDir.text text
    refine ⟨normal, path.isAbsolute_text, fun other => Path.resolve_text normal other.workingDir.text,
      fun absolute other => ?_, fun rest entered present relative stands => ?_⟩
    · exact (Path.resolve_of_isAbsolute absolute other.workingDir.text).trans
        (Path.resolve_of_isAbsolute absolute record.workingDir.text).symm
    · rw [Record.resolve, stands]
      exact Path.resolve_resolve present relative record.workingDir.text
  · intro slot path rest present relative unlaid
    exact enter_enter (after_balances start_direct unarranged).1 present relative unlaid

/-- The steps lead over a directory that is entered with its parent written out, while the first working
directory is not the root. -/
theorem parent_resolution_composes :
    let steps : List Step :=
      [⟨"a", .create (.fresh none)⟩, ⟨"a", .operate .mount⟩,
        ⟨"a", .operate (.path (.make "a" 0o755))⟩, ⟨"a", .operate (.path (.make "a/b" 0o755))⟩,
        ⟨"a", .operate (.path (.make "a/b/c" 0o700))⟩, ⟨"a", .operate (.path (.enter "a"))⟩,
        ⟨"", .control (.fail "rmdir" (-5))⟩]
    let path := "./b//"
    let rest := "../../a/b/./c/"
    let session := ({} : Session).after steps
    let first := session.perform "a" (.operate (.path (.enter path)))
    let second := first.session.perform "a" (.operate (.path (.enter rest)))
    let once := session.perform "a" (.operate (.path (.enter (path ++ "/" ++ rest))))
    first.result = .answer .nothing ∧ second.result = .answer .nothing ∧
      once.result = .answer .nothing ∧ once.session = second.session ∧
      (once.session.perform "a" (.operate .currentDir)).result = .answer (.text "/a/b/c") := by
  intro steps path rest session first second once
  have entered : first.result = .answer .nothing := by decide +kernel
  have further : second.result = .answer .nothing := by decide +kernel
  obtain ⟨-, composes⟩ := resolution_composes steps (by decide)
  obtain ⟨granted, same, mount, record, held, found, told⟩ :=
    composes "a" path rest (by decide) (by decide) (by decide +kernel) entered further
  refine ⟨entered, further, granted, same, told.trans ?_⟩
  have own : session.mounts.get? "a" = some ⟨⟨1⟩, .mounted⟩ := by decide +kernel
  cases own.symm.trans held
  have leads : (session.library.record? ⟨1⟩).map (fun record =>
      (record.resolve (path ++ "/" ++ rest)).text) = some "/a/b/c" := by decide +kernel
  rw [found, Option.map_some, Option.some.injEq] at leads
  rw [leads]

end Session

end CephMount
