import CephMount.MountConfig.Load
import CephMount.Proofs.Ron.Values

/-! A configuration that was written is read back as it was.

Each field that is written sets what it names and nothing else, and a field that is left out has the
default that stands for what it would have said.
-/

set_option autoImplicit false

namespace CephMount

namespace Ron

open Reader

variable {rest : List Char}

/-! Options. -/

theorem stringEntry_writeEntry (table : Table String String) (entry : String × String)
    (rest : List Char) :
    stringEntry table (writeEntry entry ++ rest) = .ok (table.insert entry.1 entry.2, rest) := by
  have text : writeEntry entry ++ rest =
      writeString entry.1 ++ ':' :: (writeString entry.2 ++ rest) := by
    simp [writeEntry]
  have value : Begins (writeString entry.2 ++ rest) := rfl
  rw [text, stringEntry, bind_ok (string_writeString ..), bind_ok (colon_cons value),
    bind_ok (string_writeString ..)]
  rfl

theorem readsItems_entries (table : Table String String) (entries : List (String × String)) :
    ReadsItems '\x7d' stringEntry table (entries.map writeEntry) (table.insertAll entries) := by
  induction entries generalizing table with
  | nil => exact .none
  | cons entry more ih =>
    refine .item ⟨fun _ => rfl, fun _ => ?_, fun rest _ => ?_⟩ (ih (table.insert entry.1 entry.2))
    · exact fun same => absurd (Option.some.inj same) (by decide)
    · exact stringEntry_writeEntry table entry rest

/-- A map is read as it was written: its entries stand in order, and no key stands twice. -/
theorem stringMap_writeEntries (table : Table String String) (rest : List Char) :
    stringMap (writeEntries table.entries ++ rest) = .ok (table, rest) := by
  have text : writeEntries table.entries ++ rest =
      '\x7b' :: ([','].intercalate (table.entries.map writeEntry) ++ '\x7d' :: rest) := by
    simp [writeEntries, writeEnclosed]
  have read := enclosed_intercalate .brace (readsItems_entries .empty table.entries) rest
  rw [text, stringMap, bind_ok (require_cons ..), read, Table.insertAll_entries]

/-! Fields. -/

/-- The text is a field that has not been met before, with its value, and takes what has been met so
far to what has been met then. -/
inductive Field (fields : ConfigFields) : List Char → ConfigFields → Prop where
  | clientId (value : Option String) : fields.clientId = none →
      Field fields (writeField "client_id" (writeOption value)) { fields with clientId := some value }
  | configFile (value : Option String) : fields.configFile = none →
      Field fields (writeField "config_file" (writeOption value))
        { fields with configFile := some value }
  | readConfig (value : Bool) : fields.readConfig = none →
      Field fields (writeField "read_config" (writeBool value))
        { fields with readConfig := some value }
  | parseEnv (value : Option String) : fields.parseEnv = none →
      Field fields (writeField "parse_env" (writeOption value)) { fields with parseEnv := some value }
  | options (table : Table String String) : fields.options = none →
      Field fields (writeField "options" (writeEntries table.entries))
        { fields with options := some table }

def fieldNames : List String := ["client_id", "config_file", "read_config", "parse_env", "options"]

theorem isName_of_field {name : String} (known : name ∈ fieldNames) : IsName name.toList := by
  simp only [fieldNames, List.mem_cons, List.not_mem_nil, or_false] at known
  rcases known with rfl | rfl | rfl | rfl | rfl <;> exact ⟨rfl, rfl, fun _ => rfl, fun _ => rfl⟩

theorem identifier_writeField {name : String} (known : name ∈ fieldNames) (value rest : List Char) :
    identifier (writeField name value ++ rest) = .ok (name.toList, ':' :: (value ++ rest)) := by
  have text : writeField name value ++ rest = name.toList ++ ':' :: (value ++ rest) := by
    simp [writeField]
  rw [text]
  exact identifier_append (isName_of_field known) (stops_of_separator (by decide) _)

/-- Behind the name of a field that has not been met, its value is read and kept. -/
theorem value_reads {α : Type} (name : String) {field : Option α} (unmet : field = none)
    {reader : Reader α} {value : List Char} {found : α} (begins : Begins (value ++ rest))
    (reads : reader (value ++ rest) = .ok (found, rest)) (keep : α → ConfigFields) :
    (do
      Ron.unmet name field
      colon
      return keep (← reader) : Reader ConfigFields) (':' :: (value ++ rest)) =
        .ok (keep found, rest) := by
  subst unmet
  have passed (text : List Char) : Ron.unmet name (none : Option α) text = .ok ((), text) := rfl
  rw [bind_ok (passed _), bind_ok (colon_cons begins), bind_ok reads]
  rfl

theorem configField_field {fields next : ConfigFields} {text : List Char}
    (field : Field fields text next) (extensions : Extensions) (stops : Stops rest) :
    configField extensions fields (text ++ rest) = .ok (next, rest) := by
  have optionBegins (value : Option String) : Begins (writeOption value ++ rest) := by
    cases value <;> rfl
  rw [configField]
  -- The name that is read selects the reader of the value.
  cases field with
  | clientId value unmet =>
    rw [bind_ok (identifier_writeField (by decide) _ _)]
    simp only [String.ofList_toList]
    exact value_reads _ unmet (optionBegins value) (optional_writeOption _ value stops) _
  | configFile value unmet =>
    rw [bind_ok (identifier_writeField (by decide) _ _)]
    simp only [String.ofList_toList]
    exact value_reads _ unmet (optionBegins value) (optional_writeOption _ value stops) _
  | readConfig value unmet =>
    have begins : Begins (writeBool value ++ rest) := by cases value <;> rfl
    rw [bind_ok (identifier_writeField (by decide) _ _)]
    simp only [String.ofList_toList]
    exact value_reads _ unmet begins (bool_writeBool value stops) _
  | parseEnv value unmet =>
    rw [bind_ok (identifier_writeField (by decide) _ _)]
    simp only [String.ofList_toList]
    exact value_reads _ unmet (optionBegins value) (optional_writeOption _ value stops) _
  | options table unmet =>
    have begins : Begins (writeEntries table.entries ++ rest) := rfl
    rw [bind_ok (identifier_writeField (by decide) _ _)]
    simp only [String.ofList_toList]
    exact value_reads _ unmet begins (stringMap_writeEntries table rest) _

theorem readsItem_field {fields next : ConfigFields} {text : List Char}
    (field : Field fields text next) (extensions : Extensions) :
    ReadsItem ')' (configField extensions) fields text next := by
  refine ⟨fun rest => ?_, fun rest => ?_, fun rest stops => configField_field field extensions stops⟩
  · cases field <;> rfl
  · cases field <;> exact fun same => absurd (Option.some.inj same) (by decide)

/-- A field that holds nothing is left out, and what has been met stays as it is. -/
theorem readsItems_present {fields : ConfigFields} {name : String} (extensions : Extensions)
    (value : Option String) (met : Option String → ConfigFields) (missing : met none = fields)
    (field : ∀ text, Field fields (writeField name (writeOption (some text))) (met (some text))) :
    ReadsItems ')' (configField extensions) fields (writePresent name value) (met value) := by
  cases value with
  | none =>
    rw [missing]
    exact .none
  | some text => exact .item (readsItem_field (field text) extensions) .none

/-! Documents. -/

/-- What has been met when a configuration has been read that was written. -/
def writtenFields (config : MountConfig) (path : Option String) : ConfigFields where
  clientId := config.clientId.map some
  configFile := path.map some
  readConfig := some config.readConfig
  parseEnv := config.parseEnv.map some
  options := some config.options

theorem config_writtenFields {config : MountConfig} {path : Option String}
    (same : config.configFile = path.map Utf8.encode) :
    (writtenFields config path).config = config := by
  have present (value : Option String) : (value.map some).getD none = value := by
    cases value <;> rfl
  obtain ⟨clientId, configFile, readConfig, parseEnv, options⟩ := config
  subst same
  simp only [ConfigFields.config, writtenFields, present, Option.getD_some]

theorem written_readsItems (config : MountConfig) (path : Option String) (extensions : Extensions) :
    ∃ items, config.written path = writeEnclosed '(' ')' items ∧
      ReadsItems ')' (configField extensions) {} items (writtenFields config path) := by
  have identity := readsItems_present extensions config.clientId
    (fun value => { clientId := value.map some }) rfl fun text => .clientId (some text) rfl
  have file := readsItems_present extensions path
    (fun value => { clientId := config.clientId.map some, configFile := value.map some }) rfl
    fun text => .configFile (some text) rfl
  have reading : ReadsItem ')' (configField extensions)
      { clientId := config.clientId.map some, configFile := path.map some } _ _ :=
    readsItem_field (.readConfig config.readConfig rfl) extensions
  have environment := readsItems_present extensions config.parseEnv
    (fun value => {
      clientId := config.clientId.map some, configFile := path.map some,
      readConfig := some config.readConfig, parseEnv := value.map some }) rfl
    fun text => .parseEnv (some text) rfl
  have options : ReadsItem ')' (configField extensions)
      { writtenFields config path with options := none } _ (writtenFields config path) :=
    readsItem_field (.options config.options rfl) extensions
  exact ⟨_, rfl, (((identity.append file).append (.item reading .none)).append environment).append
    (.item options .none)⟩

theorem structName_parenthesis (name : String) (rest : List Char) :
    structName {} name ('(' :: rest) = .ok ((), '(' :: rest) := by
  have separates : '(' ∈ separators := by decide
  have stops := (stops_of_separator separates rest).word
  rw [structName, if_neg (Bool.eq_false_iff.mp stops)]
  rfl

theorem mountConfig_written {config : MountConfig} {path : Option String}
    (same : config.configFile = path.map Utf8.encode) (rest : List Char) :
    mountConfig {} (config.written path ++ rest) = .ok (config, rest) := by
  obtain ⟨items, written, reads⟩ := written_readsItems config path {}
  have text : config.written path ++ rest = '(' :: ([','].intercalate items ++ ')' :: rest) := by
    simp [written, writeEnclosed]
  have opening : Begins ('(' :: ([','].intercalate items ++ ')' :: rest)) := rfl
  rw [text, mountConfig, bind_ok (structName_parenthesis ..), bind_ok opening,
    bind_ok (require_cons ..), bind_ok (enclosed_intercalate .parenthesis reads rest),
    config_writtenFields same]
  rfl

theorem heads_none {text : List Char} (headless : text.head? ≠ some '#') :
    (fun text => heads (text.length + 1) {} text : Reader Extensions) text = .ok ({}, text) := by
  dsimp only
  rw [heads, bind_ok rfl, if_neg headless]
  rfl

/-- A text that begins with neither blanks nor a head, and holds one value, is read as that value. -/
theorem read_of_value {α : Type} {value : Extensions → Reader α} {text : List Char} {found : α}
    (begins : Begins text) (headless : text.head? ≠ some '#') (reads : value {} text = .ok (found, [])) :
    read value (String.ofList text) = .ok found := by
  have atEnd : blanks [] = .ok ((), []) := rfl
  have whole : document value text = .ok (found, []) := by
    rw [document, bind_ok begins]
    refine (bind_ok (heads_none headless)).trans ?_
    rw [bind_ok reads, bind_ok atEnd]
    rfl
  rw [read, String.toList_ofList, whole]

end Ron

namespace MountConfig

variable {config : MountConfig} {path : Option String}

theorem toRon_eq (same : config.configFile = path.map Utf8.encode) :
    config.toRon = .ok (String.ofList (config.written path)) := by
  unfold toRon
  rw [same]
  cases path with
  | none => rfl
  | some path => simp only [Option.map_some, Utf8.decode_encode]

theorem parse_written (same : config.configFile = path.map Utf8.encode) :
    parse (String.ofList (config.written path)) = .ok config := by
  have begins : Ron.Begins (config.written path) := rfl
  have headless : (config.written path).head? ≠ some '#' := fun head =>
    absurd (Option.some.inj head) (by decide)
  have reads := Ron.mountConfig_written same []
  rw [List.append_nil] at reads
  rw [parse, ofRon, Ron.read_of_value begins headless reads]
  rfl

/-- A configuration whose path is text can be written, and what is written is read back as the same
configuration. -/
theorem parse_toRon (config : MountConfig)
    (isText : ∀ path, config.configFile = some path → ∃ text, path = Utf8.encode text) :
    ∃ ron, config.toRon = .ok ron ∧ parse ron = .ok config := by
  obtain ⟨path, same⟩ : ∃ path : Option String, config.configFile = path.map Utf8.encode := by
    cases file : config.configFile with
    | none => exact ⟨none, rfl⟩
    | some path =>
      obtain ⟨text, rfl⟩ := isText path file
      exact ⟨some text, rfl⟩
  exact ⟨_, toRon_eq same, parse_written same⟩

/-- Quotation marks, backslashes, control characters and characters that attach to others or are not
seen, an empty name among the options, and a path beside the instruction not to read it. -/
theorem parse_toRon_hidden :
    let config : MountConfig := {
      clientId := some "a\"b\\c'\x00\x7f"
      configFile := some (Utf8.encode "/etc/ü\u0301.conf")
      readConfig := false
      options := Table.empty.insertAll [("key\n\t", "\u200b\ue000"), ("", "),\x7b\x7d")] }
    (∀ path, config.configFile = some path → ∃ text, path = Utf8.encode text) ∧
      ∃ ron, config.toRon = .ok ron ∧ parse ron = .ok config :=
  have isText := fun _ file => ⟨"/etc/ü\u0301.conf", (Option.some.inj file).symm⟩
  ⟨isText, parse_toRon _ isText⟩

end MountConfig

end CephMount
