import CephMount.Proofs.FileNames
import CephMount.Proofs.InMemory.Failures
import CephMount.Proofs.Session.Runs

/-! The configuration files of a session, and which lists of names find one of them.

Files are registered from outside of the library, and never forgotten. A list is read exactly when one of
its names leads to a registered file; that no name does is told with one code and leaves everything.
-/

set_option autoImplicit false

namespace CephMount

open InMemory FileName

theorem InMemory.Surroundings.findsConfig_iff {surroundings : Surroundings} {list : Bytes} :
    surroundings.findsConfig list = true ↔ Finds surroundings.configFiles list := by
  rw [← exists_mem_ofList_iff]
  simp only [findsConfig, List.any_eq_true, beq_iff_eq]

namespace InMemory.Library

variable {library : Library} {handle : Handle} {record : Record}

/-- The code for a list that was asked for on a live handle. -/
def readCode (library : Library) (list : Bytes) : Int32 :=
  if library.surroundings.findsConfig list then 0 else Errno.noEntry.code

/-- Reading a list leaves the library, whether a name of it leads to a file or none does. -/
theorem readConfig_answered (found : library.record? handle = some record)
    (unlaid : library.failures.get? "conf_read_file" = none) (list : Terminated) :
    answer (.request handle (.readConfig (some list))) library =
      (.ok (library.readCode list.bytes), library) := by
  have taken : library.takeRequestFailure (.readConfig (some list)) = (none, library) :=
    takeFailure_of_none unlaid
  simp only [answer, Library.request, serveUnlessFailing, taken, serve, found, Record.serve,
    Record.readConfig, readCode]
  cases library.surroundings.findsConfig list.bytes with
  | false => rfl
  | true =>
    have same : library.records.insert handle.number record = library.records :=
      Table.insert_of_get?_eq_some found
    simp only [if_true, same]
    rfl

end InMemory.Library

/-- The file that a step registers. -/
def Instruction.registers? : Instruction → Option Bytes
  | .control (.configFile path) => some path
  | _ => none

namespace Session

/-- The files that steps register. -/
def registered (steps : List Step) : List Bytes :=
  steps.filterMap fun step => step.instruction.registers?

variable {session : Session} {steps : List Step}

/-- A step puts the file that it registers in front of the others, and no step does anything else to
them. -/
theorem perform_configFiles (direct : session.Direct) (slot : String) {instruction : Instruction}
    (unarranged : instruction.unarranged = true) :
    (session.perform slot instruction).session.library.surroundings.configFiles =
      instruction.registers?.toList ++ session.library.surroundings.configFiles := by
  cases outside : instruction.isOutside with
  | true =>
    cases instruction with
    | control control =>
      cases control with
      | arrange arrangement times => cases unarranged
      | _ => rfl
    | setFlag mounted =>
      exact withHandle_turn (motive := fun turn => turn.session.library.surroundings.configFiles =
        session.library.surroundings.configFiles) slot rfl fun _ => rfl
    | _ => cases outside
  | false =>
    have silent : instruction.registers? = none := by
      cases instruction with
      | control control => cases outside
      | _ => rfl
    rw [silent]
    have answered (call : Call) (library : Library)
        (holds : library.surroundings.configFiles = session.library.surroundings.configFiles) :
        (library.answer call).2.surroundings.configFiles = session.library.surroundings.configFiles := by
      obtain ⟨_, _, _, _, _, _, _, left⟩ := library.answer_frame call
      rw [left]
      exact holds
    exact perform_keeps answered direct slot outside rfl

/-- The file that was registered last comes first. -/
theorem configFiles_after (direct : session.Direct)
    (unarranged : ∀ step ∈ steps, step.instruction.unarranged = true) :
    (session.after steps).library.surroundings.configFiles =
      (registered steps).reverse ++ session.library.surroundings.configFiles := by
  refine unarranged_induction (motive := fun session steps =>
    (session.after steps).library.surroundings.configFiles =
      (registered steps).reverse ++ session.library.surroundings.configFiles)
    (fun _ => rfl) ?_ direct unarranged
  intro session first rest direct own ih
  have now := perform_configFiles direct first.slot own
  change (session.step first).2.library.surroundings.configFiles = _ at now
  rw [after, ih, now]
  cases registers : first.instruction.registers? <;> simp [registered, registers]

theorem finds_configFiles_iff (unarranged : ∀ step ∈ steps, step.instruction.unarranged = true)
    {list : Bytes} :
    (({} : Session).after steps).library.surroundings.findsConfig list = true ↔
      Finds (registered steps) list := by
  have files := configFiles_after start_direct unarranged
  change _ = _ ++ [] at files
  rw [Surroundings.findsConfig_iff, files, List.append_nil]
  simp only [Finds, List.mem_reverse]

/-- A step that has the mount of a slot read a list of configuration files. -/
def readConfigFile (session : Session) (slot : String) (list : Bytes) : Turn :=
  session.perform slot (.operate (.configure (.configFile list)))

/-- A list that finds a file is read and changes the tracked state alone, and any other list changes
nothing. -/
theorem readConfigFile_eq (direct : session.Direct) {slot : String} {mount : Mount} {record : Record}
    (held : session.mounts.get? slot = some mount)
    (found : session.library.record? mount.handle = some record)
    (unlaid : session.library.failures.get? "conf_read_file" = none) {list : Bytes}
    (unbroken : 0 ∉ list) :
    ∃ entries, session.readConfigFile slot list =
      if session.library.surroundings.findsConfig list then
        ⟨.answer .nothing, entries,
          { session with
            mounts := session.mounts.insert slot { mount with state := mount.state.afterConfigure } }⟩
      else ⟨.failed (.library ⟨Errno.noEntry.code⟩), entries, session⟩ := by
  let asked : Terminated := ⟨list, unbroken⟩
  have crossed : Setting.request (.configFile list) = .ok (.readConfig (some asked)) := by
    have taken : Terminated.ofBytes list = .ok asked := Terminated.ofBytes_eq_ok_iff.mpr rfl
    rw [Setting.request, taken]
    rfl
  have concludes : mount.Concludes (.configure (.configFile list)) (.readConfig (some asked)) :=
    Mount.concludes_of_opensWith rfl (mount.configure_opensWith crossed)
  obtain ⟨⟨outcome, left⟩, entries, ran, concluded⟩ :=
    concludes.run_answered (Library.readConfig_answered found unlaid asked)
  refine ⟨entries, (operate_of_run direct held ran).trans ?_⟩
  unfold Library.readCode at concluded
  cases finds : session.library.surroundings.findsConfig list with
  | true =>
    rw [if_pos finds] at concluded
    cases concluded
    rfl
  | false =>
    rw [if_neg (by rw [finds]; decide)] at concluded
    cases concluded
    have kept : session.mounts.insert slot mount = session.mounts := Table.insert_of_get?_eq_some held
    rw [kept]
    rfl

/-- The list is read. -/
def Reads (session : Session) (slot : String) (list : Bytes) : Prop :=
  (session.readConfigFile slot list).result = .answer .nothing

/-- What is found is read, and what is not read is told so and leaves everything. -/
theorem reads_cases (direct : session.Direct) {slot : String} {mount : Mount} {record : Record}
    (held : session.mounts.get? slot = some mount)
    (found : session.library.record? mount.handle = some record)
    (unlaid : session.library.failures.get? "conf_read_file" = none) {list : Bytes}
    (unbroken : 0 ∉ list) :
    (session.Reads slot list ↔ session.library.surroundings.findsConfig list = true) ∧
      (¬session.Reads slot list →
        (session.readConfigFile slot list).result = .failed (.library ⟨Errno.noEntry.code⟩) ∧
          (session.readConfigFile slot list).session = session) := by
  obtain ⟨entries, is⟩ := readConfigFile_eq direct held found unlaid unbroken
  unfold Reads
  rw [is]
  cases finds : session.library.surroundings.findsConfig list with
  | true => exact ⟨iff_of_true rfl rfl, fun unread => absurd rfl unread⟩
  | false => exact ⟨iff_of_false nofun nofun, fun _ => ⟨rfl, rfl⟩⟩

/-- Reading a list succeeds exactly when one of its names leads to a file that was registered, and a list
that finds none leaves everything. So a list that is read is read in any order, with names repeated and
with others put in, and a file can be read by its own name. -/
theorem config_lists_found (steps : List Step)
    (unarranged : ∀ step ∈ steps, step.instruction.unarranged = true) :
    let session := ({} : Session).after steps
    ∀ slot mount record, session.mounts.get? slot = some mount →
      session.library.record? mount.handle = some record →
      session.library.failures.get? "conf_read_file" = none →
      ∀ list, 0 ∉ list →
        (session.Reads slot list ↔ Finds (registered steps) list) ∧
          (¬session.Reads slot list →
            (session.readConfigFile slot list).result = .failed (.library ⟨Errno.noEntry.code⟩) ∧
              (session.readConfigFile slot list).session = session) ∧
          (session.Reads slot list → ∀ other, 0 ∉ other →
            (∀ piece, IsPiece list piece → IsPiece other piece) → session.Reads slot other) ∧
          (list ∈ registered steps → comma ∉ list → Unpadded list → session.Reads slot list) := by
  intro session slot mount record held found unlaid list unbroken
  have direct : session.Direct := (after_balances start_direct unarranged).1
  have reads {list : Bytes} (unbroken : 0 ∉ list) :
      session.Reads slot list ↔ Finds (registered steps) list :=
    (reads_cases direct held found unlaid unbroken).1.trans (finds_configFiles_iff unarranged)
  refine ⟨reads unbroken, (reads_cases direct held found unlaid unbroken).2, ?_, ?_⟩
  · intro read other whole pieces
    exact (reads whole).mpr (((reads unbroken).mp read).of_pieces pieces)
  · intro known single unpadded
    exact (reads unbroken).mpr (finds_own known single unpadded)

/-- A file whose name is no text is read by another spelling of it, behind an empty name and one that
leads nowhere, and by its own name. A dot in front makes another name. -/
theorem spelled_config_lists_found :
    let file : Bytes := [0x2F, 0xFF, 0x20, 0x2F, 0x62]
    let list : Bytes := [0x61, 0x2C, 0x2C, 0x20, 0x2F, 0x2F, 0xFF, 0x20, 0x2F, 0x2E, 0x2F, 0x62, 0x2F, 0x0A]
    let missing : Bytes := [0x2E, 0x2F, 0xFF, 0x20, 0x2F, 0x62]
    let steps : List Step :=
      [⟨"", .control (.configFile file)⟩, ⟨"a", .create (.fresh none)⟩,
        ⟨"", .control (.configFile [0x62])⟩, ⟨"a", .operate .mount⟩]
    let session := ({} : Session).after steps
    (∀ step ∈ steps, step.instruction.unarranged = true) ∧
      session.mounts.get? "a" = some ⟨⟨1⟩, .mounted⟩ ∧
      session.library.isLive ⟨1⟩ = true ∧ session.library.failures.get? "conf_read_file" = none ∧
      0 ∉ list ∧ Finds (registered steps) list ∧ session.Reads "a" file ∧
      (session.readConfigFile "a" missing).session = session := by
  intro file list missing steps session
  have unarranged : ∀ step ∈ steps, step.instruction.unarranged = true := by decide
  have held : session.mounts.get? "a" = some ⟨⟨1⟩, .mounted⟩ := by decide +kernel
  have live : session.library.isLive ⟨1⟩ = true := by decide +kernel
  have unlaid : session.library.failures.get? "conf_read_file" = none := by decide +kernel
  obtain ⟨record, found⟩ := Option.isSome_iff_exists.mp live
  have lists := config_lists_found steps unarranged "a" _ record held found unlaid
  have read : session.Reads "a" list := by
    unfold Reads
    decide +kernel
  have unread : ¬session.Reads "a" missing := by
    unfold Reads
    decide +kernel
  have unbroken : 0 ∉ list := by decide
  obtain ⟨finds, -⟩ := lists list unbroken
  obtain ⟨-, -, -, own⟩ := lists file (by decide)
  obtain ⟨-, leaves, -⟩ := lists missing (by decide)
  refine ⟨unarranged, held, live, unlaid, unbroken, finds.mp read, ?_, (leaves unread).2⟩
  exact own (by decide) (by decide) (by unfold Unpadded; simp [file, isBlank])

end Session

end CephMount
