import CephMount.Proofs.Session.Options

/-! Where the options of a mount that a configuration made come from.

The file sets none. The variable is read before the configuration's own options are set, so an own value
hides what the variable gives its key, and of the variable the last setting of a key counts.
-/

set_option autoImplicit false

namespace CephMount

open InMemory

/-! What stands in a setting stood in the text. -/

theorem mem_of_mem_splitOnP {α : Type} {splits : α → Bool} {list part : List α} {value : α}
    (split : part ∈ list.splitOnP splits) (member : value ∈ part) : value ∈ list := by
  induction list generalizing part with
  | nil =>
    rw [List.splitOnP_nil, List.mem_singleton] at split
    exact split ▸ member
  | cons first rest ih =>
    rw [List.splitOnP_cons_eq_if_modifyHead] at split
    split at split
    · rcases List.mem_cons.mp split with rfl | later
      · cases member
      · exact List.mem_cons_of_mem first (ih later member)
    · cases parted : rest.splitOnP splits with
      | nil =>
        rw [parted] at split
        cases split
      | cons head others =>
        rw [parted] at ih split
        rcases List.mem_cons.mp split with rfl | later
        · rcases List.mem_cons.mp member with rfl | within
          · exact List.mem_cons_self
          · exact List.mem_cons_of_mem first (ih List.mem_cons_self within)
        · exact List.mem_cons_of_mem first (ih (List.mem_cons_of_mem head later) member)

namespace Argument

theorem mem_of_flag? {word flag : Word} {value : Char} (flagged : flag? word = some flag)
    (member : value ∈ flag) : value ∈ word := by
  unfold flag? at flagged
  split at flagged <;> cases flagged
  exact List.mem_cons_of_mem '-' (List.mem_cons_of_mem '-' member)

theorem mem_of_assignment? {flag key text : Word} {value : Char}
    (parted : assignment? flag = some (key, text)) (member : value ∈ text) : value ∈ flag := by
  unfold assignment? at parted
  split at parted
  · cases parted
  next first rest behind =>
    cases parted
    have kept : value ∈ flag.dropWhile (· != '=') := behind ▸ List.mem_cons_of_mem first member
    exact (List.dropWhile_suffix _).mem kept

/-- A value is made of characters of the words. -/
theorem mem_of_ofWords {words : List Word} {argument : Argument} {key text : String} {value : Char}
    (read : argument ∈ ofWords words) (sets : argument.setting? = some (key, text))
    (member : value ∈ text.toList) : ∃ word ∈ words, value ∈ word := by
  have later {word : Word} {rest : List Word} (found : ∃ word ∈ rest, value ∈ word) :
      ∃ other ∈ word :: rest, value ∈ other := by
    obtain ⟨other, among, holds⟩ := found
    exact ⟨other, List.mem_cons_of_mem word among, holds⟩
  fun_induction ofWords words with
  | case1 => cases read
  | case2 word rest plain ih =>
    rcases List.mem_cons.mp read with rfl | read
    · cases sets
    · exact later (ih read)
  | case3 word rest flag flagged name given parted ih =>
    rcases List.mem_cons.mp read with rfl | read
    · cases sets
      rw [String.toList_ofList] at member
      exact ⟨word, List.mem_cons_self, mem_of_flag? flagged (mem_of_assignment? parted member)⟩
    · exact later (ih read)
  | case4 word flag flagged bare =>
    cases List.mem_singleton.mp read
    cases sets
  | case5 word flag flagged bare next rest also ih =>
    rcases List.mem_cons.mp read with rfl | read
    · cases sets
    · exact later (ih read)
  | case6 word flag flagged bare next rest plain ih =>
    rcases List.mem_cons.mp read with rfl | read
    · cases sets
      rw [String.toList_ofList] at member
      exact ⟨next, List.mem_cons_of_mem word List.mem_cons_self, member⟩
    · exact later (later (ih read))

theorem mem_of_settingsOf {text key value : String} {character : Char}
    (set : (key, value) ∈ settingsOf text) (member : character ∈ value.toList) :
    character ∈ text.toList := by
  obtain ⟨argument, read, sets⟩ := List.mem_filterMap.mp set
  obtain ⟨word, kept, holds⟩ := mem_of_ofWords read sets member
  exact mem_of_mem_splitOnP (List.mem_filter.mp kept).1 holds

end Argument

/-- What was written last was written. -/
theorem mem_of_lastWrite {key value : String} {writes : List (String × String)}
    (last : lastWrite key writes = some value) : (key, value) ∈ writes := by
  obtain ⟨before, behind, parted, -⟩ := List.lookup_eq_some_iff.mp last
  exact List.mem_reverse.mp (parted ▸ List.mem_append_right before List.mem_cons_self)

/-- The entries of a map, written in order, leave the map. -/
theorem lastWrite_entries (table : Table String String) (key : String) :
    lastWrite key table.entries = table.get? key := by
  have written := get?_insertAll Table.empty table.entries key
  rw [Table.insertAll_entries, Table.get?_empty, Option.or_none] at written
  exact written.symm

/-! What a configuration writes. -/

namespace MountConfig

/-- What the variable of a configuration sets, if one is named. -/
def inherited (config : MountConfig) (surroundings : Surroundings) : List (String × String) :=
  match config.parseEnv with
  | none => []
  | some name => Argument.settingsOf ((surroundings.environment.get? name).getD "")

/-- The value that a configuration gives a key: its own, or else that of the variable. -/
def assigned (config : MountConfig) (surroundings : Surroundings) (key : String) : Option String :=
  (config.options.get? key).or (lastWrite key (config.inherited surroundings))

theorem writes_settings (config : MountConfig) (surroundings : Surroundings) :
    config.settings.flatMap (Setting.writes surroundings) =
      config.inherited surroundings ++ config.options.entries := by
  have own (entries : List (String × String)) :
      (entries.map fun entry => Setting.option entry.1 entry.2).flatMap (Setting.writes surroundings) =
        entries := by
    induction entries with
    | nil => rfl
    | cons first rest ih => exact congrArg (List.cons first) ih
  obtain ⟨id, file, read, name, options⟩ := config
  rw [settings, List.flatMap_append, List.flatMap_append, own]
  refine congrArg (· ++ options.entries) ?_
  cases read <;> cases file <;> cases name <;> simp [Setting.writes, inherited]

theorem lastWrite_settings (config : MountConfig) (surroundings : Surroundings) (key : String) :
    lastWrite key (config.settings.flatMap (Setting.writes surroundings)) =
      config.assigned surroundings key := by
  rw [writes_settings, lastWrite_append, lastWrite_entries, assigned]

end MountConfig

/-! What configuring leaves of the library. -/

namespace InMemory

/-- The record with options written into it. -/
def Record.written (record : Record) (writes : List (String × String)) : Record :=
  { record with options := record.options.insertAll writes }

theorem Record.recall_of_unbroken (record : Record) {key value : String} {room : Nat}
    (held : record.options.get? key = some value) (whole : '\x00' ∉ value.toList)
    (fits : (Utf8.encode value).length < room) : record.recall key room = .ok value := by
  rw [Record.recall, held]
  exact (if_pos fits).trans (congrArg Except.ok (beforeNul_of_unbroken whole))

theorem Record.written_append (record : Record) (early late : List (String × String)) :
    (record.written early).written late = record.written (early ++ late) := by
  simp only [written, Table.insertAll, List.foldl_append]

namespace Library

variable {library after : Library} {handle : Handle} {record : Record}

theorem record?_inserted (library : Library) (handle : Handle) (record : Record) :
    record? { library with records := library.records.insert handle.number record } handle =
      some record := by
  rw [record?, Table.get?_insert, if_pos rfl]

/-- A step in configuring that is granted writes what it sets into the handle's record, and does nothing
else. -/
theorem request_writes (unfailing : library.failures = .empty)
    (found : library.record? handle = some record) {setting : Setting} {request : Request}
    (asks : setting.Asks request) (granted : library.request handle request = (.ok 0, after)) :
    after = { library with records :=
      library.records.insert handle.number (record.written (setting.writes library.surroundings)) } := by
  have missing : Errno.noEntry.code ≠ 0 := by decide
  rw [request_of_unfailing unfailing] at granted
  rw [← asks.writes_eq]
  cases asks with
  | defaultConfig | configFile list =>
    simp only [serve, found, Record.serve] at granted
    split at granted
    next errno refused =>
      simp only [Record.readConfig] at refused
      split at refused <;> cases refused
      exact absurd (Except.ok.inj (Prod.mk.inj granted).1) missing
    next changed served =>
      rw [Record.of_readConfig served] at granted
      exact (Prod.mk.inj granted).2.symm
  | defaultVariable | environment spells | option named spells =>
    simp only [serve, found, Record.serve] at granted
    exact (Prod.mk.inj granted).2.symm

end Library

end InMemory

/-- A run that gave a result went through each of its parts. -/
theorem Program.of_run_bind {σ α β : Type} {boundary : Boundary σ} {program : Program α}
    {next : α → Program β} {state after : σ} {result : β} {entries : List Entry}
    (ran : (program.bind next).run boundary state = ⟨.ok result, entries, after⟩) :
    ∃ value early between late,
      program.run boundary state = ⟨.ok value, early, between⟩ ∧
        (next value).run boundary between = ⟨.ok result, late, after⟩ ∧ entries = early ++ late := by
  rw [run_bind] at ran
  generalize program.run boundary state = first at ran ⊢
  obtain ⟨gave, early, between⟩ := first
  cases gave with
  | error misuse => cases ran
  | ok value =>
    obtain ⟨given, split, ended⟩ := Run.mk.inj ran
    refine ⟨value, early, between, _, rfl, ?_, split.symm⟩
    exact Run.mk.injEq .. |>.mpr ⟨given, rfl, ended⟩

namespace Mount

variable {library after : Library} {mount left : Mount} {record : Record} {entries : List Entry}

/-- Steps that were all taken wrote what they set, in order, and no string of theirs holds a NUL. -/
theorem prepare_writes {settings : List Setting}
    (ran : (mount.prepare settings).run Library.answer library = ⟨.ok (.ok left), entries, after⟩)
    (found : library.record? mount.handle = some record) (unfailing : library.failures = .empty) :
    left.handle = mount.handle ∧
      after.record? mount.handle =
        some (record.written (settings.flatMap (Setting.writes library.surroundings))) ∧
      ∀ setting ∈ settings, setting.Unbroken := by
  induction settings generalizing library mount record entries with
  | nil =>
    cases ran
    exact ⟨rfl, found, fun _ member => nomatch member⟩
  | cons setting rest ih =>
    rw [prepare, Program.bind_eq_bind] at ran
    obtain ⟨⟨outcome, next⟩, early, between, late, configured, ran, -⟩ := Program.of_run_bind ran
    cases outcome with
    | error error =>
      obtain ⟨_, _, _, _, -, gave, -⟩ := Program.of_run_bind ran
      cases gave
    | ok =>
      rcases setting.request_cases with ⟨request, crossed, asks⟩ | ⟨offset, crossed, -⟩
      case inr =>
        rw [configure, crossed] at configured
        cases configured
      obtain ⟨code, answered, concluded, -⟩ := (mount.configure_opensWith crossed).run_once configured
      split at concluded
      case isFalse => cases concluded
      next granted =>
        subst granted
        cases concluded
        cases Library.request_writes unfailing found asks answered
        obtain ⟨same, wrote, unbroken⟩ := ih ran (Library.record?_inserted ..) unfailing
        rw [Record.written_append] at wrote
        exact ⟨same, wrote, List.forall_mem_cons.mpr ⟨asks.unbroken, unbroken⟩⟩

/-- What a creation leaves when no failure is laid up: a fresh record for the client. -/
theorem create_writes {id : Option String}
    (ran : (create id).run Library.answer library = ⟨.ok (.ok mount), entries, after⟩)
    (unfailing : library.failures = .empty) :
    after.record? mount.handle = some (Record.new id none) ∧ after.failures = .empty ∧
      after.surroundings = library.surroundings := by
  unfold create at ran
  split at ran
  · cases ran
  next name crossed =>
    have named : name.map Terminated.text = id := by
      cases id with
      | none =>
        cases crossed
        rfl
      | some text =>
        rw [Terminated.ofOptionalText] at crossed
        cases spelled : Terminated.ofText text with
        | error offset => rw [spelled] at crossed; cases crossed
        | ok string =>
          rw [spelled] at crossed
          cases crossed
          exact congrArg some (Terminated.text_of_ofText spelled)
    have none : library.failures.get? "create" = .none := by rw [unfailing, Table.get?_empty]
    have answered : Library.answer (.create name) library =
        (.ok (.ok (library.newHandle (.new id .none)).1), (library.newHandle (.new id .none)).2) := by
      rw [Library.answer, Library.create, Library.takeFailure_of_none none, named]
    change Program.run Library.answer (.call (.create name) _) library = _ at ran
    rw [Program.run, answered] at ran
    cases ran
    exact ⟨Library.record?_inserted .., unfailing, rfl⟩

/-- What a configuration leaves when no failure is laid up: a fresh record for its client, with the
file's, the variable's and its own options written into it. -/
theorem fromConfig_writes {config : MountConfig}
    (ran : (fromConfig config).run Library.answer library = ⟨.ok (.ok mount), entries, after⟩)
    (unfailing : library.failures = .empty) :
    after.record? mount.handle = some ((Record.new config.clientId none).written
        (config.settings.flatMap (Setting.writes library.surroundings))) ∧
      ∀ setting ∈ config.settings, setting.Unbroken := by
  rw [fromConfig, Program.bind_eq_bind] at ran
  obtain ⟨outcome, early, between, late, created, ran, -⟩ := Program.of_run_bind ran
  cases outcome with
  | error error => cases ran
  | ok fresh =>
    obtain ⟨born, unfailed, same⟩ := create_writes created unfailing
    obtain ⟨kept, wrote, unbroken⟩ := prepare_writes ran born unfailed
    rw [kept, ← same]
    exact ⟨wrote, unbroken⟩

/-- With no failure laid up, what a configuration makes is a mount on a handle of its client that comes
from no cluster. A look-up of a key then gives the configuration's own value, or else the last one that
the variable's text gives the key, or else finds nothing. -/
theorem fromConfig_prefers {config : MountConfig}
    (ran : (fromConfig config).run Library.answer library = ⟨.ok (.ok mount), entries, after⟩)
    (unfailing : library.failures = .empty) :
    (∃ record, after.record? mount.handle = some record ∧ record.clientId = config.clientId ∧
      record.cluster = none) ∧
    ∀ key, '\x00' ∉ key.toList → ∃ outcome looked,
      (mount.getOption key).run Library.answer after = ⟨.ok outcome, looked, after⟩ ∧
      (∀ value, config.options.get? key = some value → (Utf8.encode value).length ≤ 65535 →
        outcome = .ok value) ∧
      (∀ name text value, config.options.get? key = none → config.parseEnv = some name →
        (library.surroundings.environment.get? name).getD "" = text → '\x00' ∉ text.toList →
        lastWrite key (Argument.settingsOf text) = some value → (Utf8.encode value).length ≤ 65535 →
        outcome = .ok value) ∧
      (config.options.get? key = none →
        (∀ name text, config.parseEnv = some name →
          (library.surroundings.environment.get? name).getD "" = text →
          lastWrite key (Argument.settingsOf text) = none) →
        outcome = .error (.library ⟨Errno.noEntry.code⟩)) := by
  obtain ⟨wrote, unbroken⟩ := fromConfig_writes ran unfailing
  refine ⟨⟨_, wrote, rfl, rfl⟩, fun key named => ?_⟩
  obtain ⟨looked, gave⟩ := mount.getOption_run named wrote
  have held : ((Record.new config.clientId none).written
      (config.settings.flatMap (Setting.writes library.surroundings))).options.get? key =
      config.assigned library.surroundings key := by
    rw [Record.written, get?_insertAll, config.lastWrite_settings]
    exact Option.or_none
  generalize Record.written _ _ = record at gave held
  refine ⟨_, looked, gave, ?own, ?inherited, ?unset⟩
  case own =>
    intro value own fits
    have member : (key, value) ∈ config.options.entries := Table.mem_entries_iff.mpr own
    have set : Setting.option key value ∈ config.settings :=
      List.mem_append_right _ (List.mem_map.mpr ⟨(key, value), member, rfl⟩)
    refine record.recall_of_unbroken ?_ (unbroken _ set).2 (Nat.lt_succ_of_le fits)
    rw [held, MountConfig.assigned, own, Option.some_or]
  case inherited =>
    rintro name text value absent read rfl whole last fits
    refine record.recall_of_unbroken ?_ ?_ (Nat.lt_succ_of_le fits)
    · rw [held, MountConfig.assigned, absent, MountConfig.inherited, read, Option.none_or, last]
    · exact fun nul => whole (Argument.mem_of_settingsOf (mem_of_lastWrite last) nul)
  case unset =>
    intro absent unassigned
    have nothing : config.assigned library.surroundings key = none := by
      rw [MountConfig.assigned, absent, MountConfig.inherited]
      cases read : config.parseEnv with
      | none => rfl
      | some name => exact unassigned name _ read rfl
    rw [Record.recall, held, nothing]

/-- The variable sets a key that the configuration sets as well, and another one twice. -/
theorem shadowed_variable_fromConfig_prefers :
    let config : MountConfig :=
      { clientId := some "größe", readConfig := false, parseEnv := some "ARGS"
        options := Table.empty.insert "color" "green" }
    let library := ({} : Library).setVariable "ARGS" "--color=red --size 3 stray --size=4"
    let run := (fromConfig config).run Library.answer library
    let gives (mount : Mount) (key : String) (outcome : Outcome String) : Prop :=
      ∃ looked, (mount.getOption key).run Library.answer run.state = ⟨.ok outcome, looked, run.state⟩
    library.failures = .empty ∧
      ∃ mount, run.result = .ok (.ok mount) ∧
        (∃ record, run.state.record? mount.handle = some record ∧ record.clientId = some "größe" ∧
          record.cluster = none) ∧
        gives mount "color" (.ok "green") ∧ gives mount "size" (.ok "4") ∧
        gives mount "shape" (.error (.library ⟨-2⟩)) := by
  intro config library run gives
  have unfailing : library.failures = .empty := rfl
  have made : run.result = .ok (.ok ⟨⟨1⟩, .configured⟩) := by rfl
  have ran : run = ⟨.ok (.ok ⟨⟨1⟩, .configured⟩), run.entries, run.state⟩ := by rw [← made]
  obtain ⟨record, looks⟩ := fromConfig_prefers ran unfailing
  obtain ⟨_, color, found, own, -⟩ := looks "color" (by decide)
  obtain ⟨_, size, also, -, inherited, -⟩ := looks "size" (by decide)
  obtain ⟨_, shape, missing, -, -, unset⟩ := looks "shape" (by decide)
  refine ⟨unfailing, _, made, record, ⟨color, ?_⟩, ⟨size, ?_⟩, shape, ?_⟩
  · rw [found, own "green" (by decide) (by decide)]
  · rw [also, inherited "ARGS" _ "4" (by decide) rfl rfl (by decide) (by decide +kernel) (by decide)]
  · refine missing.trans ?_
    rw [unset (by decide) fun name text named same => ?_]
    · rfl
    · cases named
      subst same
      decide +kernel

end Mount

end CephMount
