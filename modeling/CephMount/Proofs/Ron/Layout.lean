import CephMount.Proofs.InMemory.Options
import CephMount.Proofs.Ron.Filler
import CephMount.Proofs.Ron.RoundTrip

/-! A configuration is read from its tokens, however these are laid out.

Main statement: the fields may stand in any order, with filler around every token and with or without a
comma behind the last item of a list. Each field that is named says what was written, each other one has
its default, and a name that stands twice is a fault.
-/

set_option autoImplicit false

namespace CephMount

namespace Ron

open Reader

/-! What a reading comes to. -/

section

variable {α β : Type} {between behind : List Char → Prop} {text rest : List Char} {value : α}

/-- The reading gives the value with such a text behind it, or a fault of the cause. -/
def Comes (behind : List Char → Prop) : Except Cause α → Except Fault (α × List Char) → Prop
  | .ok value, .ok (found, rest) => found = value ∧ behind rest
  | .error cause, .error fault => fault.cause = cause
  | _, _ => False

theorem Comes.of_ok {read : Except Fault (α × List Char)} (is : read = .ok (value, rest))
    (holds : behind rest) : Comes behind (.ok value) read :=
  is ▸ ⟨rfl, holds⟩

theorem Comes.ok {read : Except Fault (α × List Char)} (comes : Comes behind (.ok value) read) :
    ∃ rest, read = .ok (value, rest) ∧ behind rest := by
  rcases read with fault | ⟨found, rest⟩
  · cases comes
  · obtain ⟨rfl, holds⟩ := comes
    exact ⟨rest, rfl, holds⟩

theorem Comes.error {cause : Cause} {read : Except Fault (α × List Char)}
    (comes : Comes behind (.error cause) read) : ∃ rest, read = .error ⟨cause, rest⟩ := by
  rcases read with fault | found
  · obtain rfl := comes
    exact ⟨fault.rest, rfl⟩
  · cases comes

/-- One reading after the other: the second starts behind the first, and a fault of the first stands. -/
theorem Comes.and_then {first : Reader α} {next : α → Reader β} {outcome : Except Cause α}
    {outcomes : α → Except Cause β} (read : Comes between outcome (first text))
    (rest : ∀ value text, between text → Comes behind (outcomes value) (next value text)) :
    Comes behind (outcome >>= outcomes) ((first >>= next) text) := by
  cases outcome with
  | error cause =>
    obtain ⟨place, failed⟩ := read.error
    rw [bind_error failed]
    exact rfl
  | ok value =>
    obtain ⟨left, given, holds⟩ := read.ok
    rw [bind_ok given]
    exact rest value left holds

theorem Comes.bind {first : Reader α} {next : α → Reader β} {outcome : Except Cause β}
    (read : Comes between (.ok value) (first text))
    (rest : ∀ text, between text → Comes behind outcome (next value text)) :
    Comes behind outcome ((first >>= next) text) := by
  obtain ⟨left, given, holds⟩ := read.ok
  rw [bind_ok given]
  exact rest left holds

end

/-! Tokens. -/

section

variable {token text name : List Char} {more : List (List Char)} {mark : Char}

theorem blanks_comes (isToken : IsToken token) (layout : Layout (token :: more) text) :
    Comes (Starts (token :: more)) (.ok ()) (blanks text) := by
  obtain ⟨rest, passed, starts⟩ := layout.blanks isToken
  exact .of_ok passed starts

theorem require_comes (cause : Cause) (starts : Starts ([mark] :: more) text) :
    Comes (Layout more) (.ok ()) (require [mark] cause text) := by
  obtain ⟨rest, rfl, layout⟩ := starts
  exact .of_ok (require_cons ..) layout

theorem accept_comes (starts : Starts ([mark] :: more) text) :
    Comes (Layout more) (.ok true) (accept [mark] text) := by
  obtain ⟨rest, rfl, layout⟩ := starts
  exact .of_ok (accept_cons ..) layout

theorem peek?_ok (text : List Char) : peek? text = .ok (text.head?, text) := rfl

theorem isToken_separator (separates : mark ∈ separators) : IsToken [mark] := by
  simp only [separators, List.mem_cons, List.not_mem_nil, or_false] at separates
  rcases separates with rfl | rfl | rfl | rfl | rfl | rfl <;> exact fun _ => rfl

theorem isToken_string (value : String) : IsToken (writeString value) := fun _ => rfl

theorem Closes.separates {closing : Char} (closes : Closes closing) : closing ∈ separators := by
  cases closes <;> decide

theorem colon_comes (isToken : IsToken token) (layout : Layout ([':'] :: token :: more) text) :
    Comes (Starts (token :: more)) (.ok ()) (colon text) := by
  have separates : ':' ∈ separators := by decide
  refine (blanks_comes (isToken_separator separates) layout).bind fun text starts => ?_
  refine (require_comes _ starts).bind fun text layout => ?_
  exact blanks_comes isToken layout

theorem comma_comes (isToken : IsToken token) (layout : Layout ([','] :: token :: more) text) :
    Comes (Starts (token :: more)) (.ok true) (comma text) := by
  have separates : ',' ∈ separators := by decide
  refine (blanks_comes (isToken_separator separates) layout).bind fun text starts => ?_
  refine (accept_comes starts).bind fun text layout => ?_
  exact (blanks_comes isToken layout).bind fun text starts => .of_ok rfl starts

/-- There is no comma where a list is closed. -/
theorem comma_closing {closing : Char} (closes : Closes closing)
    (layout : Layout ([closing] :: more) text) :
    Comes (Starts ([closing] :: more)) (.ok false) (comma text) := by
  obtain ⟨rest, passed, starts⟩ := layout.blanks (isToken_separator closes.separates)
  obtain ⟨behind, rfl, layout⟩ := starts
  have none : accept [','] (closing :: behind) = .ok (false, closing :: behind) := by
    cases closes <;> rfl
  refine .of_ok ?_ ⟨behind, rfl, layout⟩
  rw [comma, bind_ok passed]
  exact bind_ok none

theorem identifier_comes (isName : IsName name) (separates : mark ∈ separators)
    (starts : Starts (name :: [mark] :: more) text) :
    Comes (Layout ([mark] :: more)) (.ok name) (identifier text) := by
  obtain ⟨rest, rfl, layout⟩ := starts
  exact .of_ok (identifier_append isName (layout.stops separates)) layout

theorem bool_comes {value : Bool} (separates : mark ∈ separators)
    (starts : Starts (writeBool value :: [mark] :: more) text) :
    Comes (Layout ([mark] :: more)) (.ok value) (bool text) := by
  obtain ⟨rest, rfl, layout⟩ := starts
  exact .of_ok (bool_writeBool value (layout.stops separates)) layout

theorem string_comes {value : String} (starts : Starts (writeString value :: more) text) :
    Comes (Layout more) (.ok value) (string text) := by
  obtain ⟨rest, rfl, layout⟩ := starts
  exact .of_ok (string_writeString value rest) layout

/-- The tokens of an option. -/
def optionTokens : Option String → List (List Char)
  | none => ["None".toList]
  | some value => ["Some".toList, ['('], writeString value, [')']]

theorem optional_comes {value : Option String} (separates : mark ∈ separators)
    (starts : Starts (optionTokens value ++ [mark] :: more) text) :
    Comes (Layout ([mark] :: more)) (.ok value) (optional {} (fun _ => string) text) := by
  cases value with
  | none =>
    obtain ⟨rest, rfl, layout⟩ := starts
    have word : acceptWord ['N', 'o', 'n', 'e'] ("None".toList ++ rest) = .ok (true, rest) :=
      acceptWord_append _ (layout.stops separates)
    rw [optional, bind_ok word]
    exact .of_ok rfl layout
  | some value =>
    obtain ⟨rest, rfl, layout⟩ := starts
    have opening : '(' ∈ separators := by decide
    have other : acceptWord ['N', 'o', 'n', 'e'] ("Some".toList ++ rest) =
        .ok (false, "Some".toList ++ rest) := rfl
    have word : acceptWord ['S', 'o', 'm', 'e'] ("Some".toList ++ rest) = .ok (true, rest) :=
      acceptWord_append _ (layout.stops opening)
    rw [optional, bind_ok other, if_neg Bool.false_ne_true, bind_ok word, if_pos rfl]
    refine (blanks_comes (isToken_separator opening) layout).bind fun text starts => ?_
    refine (accept_comes starts).bind fun text layout => ?_
    refine (blanks_comes (isToken_string value) layout).bind fun text starts => ?_
    refine (string_comes starts).bind fun text layout => ?_
    refine (comma_closing .parenthesis layout).bind fun text starts => ?_
    exact (require_comes _ starts).bind fun text layout => .of_ok rfl layout

end

/-! Lists. -/

/-- Items with a comma behind each, which the last one has only if it is to trail. -/
def separate (trailing : Bool) : List (List (List Char)) → List (List Char)
  | [] => []
  | item :: more =>
    item ++ if more.isEmpty && !trailing then [] else [','] :: separate trailing more

/-- The tokens of a list in brackets. -/
def listTokens (opening closing : Char) (trailing : Bool) (items : List (List (List Char))) :
    List (List Char) :=
  [opening] :: (separate trailing items ++ [[closing]])

section

variable {α ι : Type} {closing : Char} {item : α → Reader α} {step : α → ι → Except Cause α}
  {tokens : ι → List (List Char)} {text : List Char} {after : List (List Char)}

/-- Each item is read from its own tokens, and is known by the first of them. -/
structure ReadsEach (closing : Char) (item : α → Reader α) (step : α → ι → Except Cause α)
    (tokens : ι → List (List Char)) : Prop where
  begins : ∀ each, ∃ first more, tokens each = first :: more ∧ IsToken first ∧
    ∀ rest, (first ++ rest).head? ≠ some closing
  reads : ∀ state each {mark : Char} {after : List (List Char)} {text : List Char}, mark ∈ separators →
    Starts (tokens each ++ [mark] :: after) text →
      Comes (Layout ([mark] :: after)) (step state each) (item state text)

theorem separatedBy_ends (closes : Closes closing) (bound : Nat) (afterComma : Bool) (state : α)
    (layout : Layout ([closing] :: after) text) :
    Comes (Starts ([closing] :: after)) (.ok state)
      (separatedBy closing item (bound + 1) afterComma state text) := by
  rw [separatedBy]
  refine (blanks_comes (isToken_separator closes.separates) layout).bind fun text starts => ?_
  have closed : text.head? = some closing := by
    obtain ⟨rest, rfl, -⟩ := starts
    rfl
  rw [bind_ok (peek?_ok text), if_pos closed]
  exact .of_ok rfl starts

/-- An item is read where one may stand, and what may stand behind it depends on the comma there. -/
theorem separatedBy_each (reads : ReadsEach closing item step tokens) (bound : Nat) (state : α)
    (each : ι) {mark : Char} (separates : mark ∈ separators) {outcomes : α → Except Cause α}
    {behind : List Char → Prop} (layout : Layout (tokens each ++ [mark] :: after) text)
    (rest : ∀ next text, Layout ([mark] :: after) text → Comes behind (outcomes next)
      ((do
        let afterComma ← comma
        separatedBy closing item bound afterComma next : Reader α) text)) :
    Comes behind (step state each >>= outcomes) (separatedBy closing item (bound + 1) true state text) := by
  obtain ⟨first, more, is, isToken, other⟩ := reads.begins each
  have own := @reads.reads state each mark after
  rw [is] at layout own
  rw [separatedBy]
  refine (blanks_comes isToken layout).bind fun text starts => ?_
  have unclosed : text.head? ≠ some closing := by
    obtain ⟨rest, rfl, -⟩ := starts
    exact other rest
  rw [bind_ok (peek?_ok text), if_neg unclosed, if_neg (by decide)]
  exact (own separates starts).and_then rest

theorem separatedBy_comes (closes : Closes closing) (reads : ReadsEach closing item step tokens)
    (trailing : Bool) (items : List ι) {bound : Nat} (enough : items.length < bound) (state : α)
    (layout : Layout (separate trailing (items.map tokens) ++ [closing] :: after) text) :
    Comes (Starts ([closing] :: after)) (items.foldlM step state)
      (separatedBy closing item bound true state text) := by
  induction items generalizing state bound text with
  | nil =>
    obtain ⟨bound, rfl⟩ := Nat.exists_eq_succ_of_ne_zero (Nat.ne_of_gt enough)
    exact separatedBy_ends closes bound true state layout
  | cons each more ih =>
    obtain ⟨bound, rfl⟩ := Nat.exists_eq_succ_of_ne_zero (Nat.ne_of_gt (Nat.zero_lt_of_lt enough))
    have enough := Nat.lt_of_succ_lt_succ enough
    rw [List.map_cons, separate, List.append_assoc] at layout
    rw [List.foldlM_cons]
    split at layout
    next last =>
      -- Nothing stands between the last item and the bracket, so no comma is met.
      obtain ⟨bound, rfl⟩ := Nat.exists_eq_succ_of_ne_zero (Nat.ne_of_gt (Nat.zero_lt_of_lt enough))
      obtain rfl : more = [] := by simpa using (Bool.and_eq_true_iff.mp last).1
      refine separatedBy_each reads _ state each closes.separates layout fun next text layout => ?_
      refine (comma_closing closes layout).bind fun text starts => ?_
      exact separatedBy_ends closes bound false next starts.layout
    next some =>
      have separates : ',' ∈ separators := by decide
      refine separatedBy_each reads _ state each separates layout fun next text layout => ?_
      obtain ⟨token, later, is, isToken⟩ : ∃ token later,
          separate trailing (more.map tokens) ++ [closing] :: after = token :: later ∧ IsToken token := by
        cases more with
        | nil => exact ⟨_, _, rfl, isToken_separator closes.separates⟩
        | cons second others =>
          obtain ⟨first, rest, is, isToken, -⟩ := reads.begins second
          exact ⟨first, _, by rw [List.map_cons, separate, is]; rfl, isToken⟩
      change Layout ([','] :: (separate trailing (more.map tokens) ++ [closing] :: after)) text at layout
      rw [is] at layout
      refine (comma_comes isToken layout).bind fun text starts => ?_
      exact ih enough next (is ▸ starts.layout)

theorem length_le_separate (reads : ReadsEach closing item step tokens) (trailing : Bool)
    (items : List ι) : items.length ≤ (separate trailing (items.map tokens)).flatten.length := by
  induction items with
  | nil => exact Nat.zero_le _
  | cons each more ih =>
    obtain ⟨first, others, is, -, other⟩ := reads.begins each
    have some : 0 < first.length := List.length_pos_iff.mpr fun none =>
      other [closing] (by rw [none]; rfl)
    rw [List.map_cons, separate, is]
    simp only [List.length_cons, List.flatten_append, List.flatten_cons, List.length_append]
    split
    next last =>
      obtain rfl : more = [] := by simpa using (Bool.and_eq_true_iff.mp last).1
      rw [List.length_nil]
      omega
    next more =>
      rw [List.flatten_cons, List.length_append]
      omega

/-- A list in brackets is read behind the opening one, and the closing one is taken. -/
theorem enclosed_comes (closes : Closes closing) (reads : ReadsEach closing item step tokens)
    (trailing : Bool) (items : List ι) (state : α)
    (layout : Layout (separate trailing (items.map tokens) ++ [closing] :: after) text) :
    Comes (Layout after) (items.foldlM step state) (enclosed closing item state text) := by
  have enough : items.length < text.length + 1 := by
    have few := length_le_separate reads trailing items
    have room := layout.length_le
    rw [List.flatten_append, List.length_append] at room
    omega
  have read : Comes (Starts ([closing] :: after)) (items.foldlM step state)
      (separated closing item state text) := separatedBy_comes closes reads trailing items enough state layout
  rw [← bind_pure (items.foldlM step state)]
  refine read.and_then fun last text starts => ?_
  obtain ⟨rest, rfl, layout⟩ := starts
  exact .of_ok rfl layout

end

/-! Options. -/

/-- The tokens of an entry of a map. -/
def entryTokens (entry : String × String) : List (List Char) :=
  [writeString entry.1, [':'], writeString entry.2]

theorem readsEach_entry :
    ReadsEach '\x7d' stringEntry (fun table entry => .ok (table.insert entry.1 entry.2)) entryTokens where
  begins entry := ⟨_, _, rfl, isToken_string entry.1, fun _ same => by cases same⟩
  reads table entry mark after text _ starts := by
    refine (string_comes starts).bind fun text layout => ?_
    refine (colon_comes (isToken_string entry.2) layout).bind fun text starts => ?_
    exact (string_comes starts).bind fun text layout => .of_ok rfl layout

/-- The tokens of a map, whose entries may stand in any order and whose keys may stand twice. -/
def mapTokens (entries : List (String × String)) (trailing : Bool) : List (List Char) :=
  listTokens '\x7b' '\x7d' trailing (entries.map entryTokens)

theorem stringMap_comes {entries : List (String × String)} {trailing : Bool} {text : List Char}
    {after : List (List Char)} (starts : Starts (mapTokens entries trailing ++ after) text) :
    Comes (Layout after) (.ok (Table.empty.insertAll entries)) (stringMap text) := by
  rw [mapTokens, listTokens, List.cons_append, List.append_assoc] at starts
  have kept : entries.foldlM (fun table entry => Except.ok (table.insert entry.1 entry.2)) .empty =
      (.ok (Table.empty.insertAll entries) : Except Cause (Table String String)) := List.foldlM_pure
  rw [← kept]
  refine (require_comes _ starts).bind fun text layout => ?_
  exact enclosed_comes .brace readsEach_entry trailing entries .empty layout

/-! Fields. -/

/-- A field with its value, as it may be written. -/
inductive WrittenField where
  | clientId (value : Option String)
  | configFile (path : Option String)
  | readConfig (value : Bool)
  | parseEnv (name : Option String)
  | options (entries : List (String × String)) (trailing : Bool)
  deriving DecidableEq, Repr

namespace WrittenField

def name : WrittenField → String
  | clientId _ => "client_id"
  | configFile _ => "config_file"
  | readConfig _ => "read_config"
  | parseEnv _ => "parse_env"
  | options _ _ => "options"

def valueTokens : WrittenField → List (List Char)
  | clientId value | configFile value | parseEnv value => optionTokens value
  | readConfig value => [writeBool value]
  | options entries trailing => mapTokens entries trailing

def tokens (field : WrittenField) : List (List Char) :=
  field.name.toList :: [':'] :: field.valueTokens

/-- Whether a field of that name has been met. -/
def isMet (fields : ConfigFields) : WrittenField → Bool
  | clientId _ => fields.clientId.isSome
  | configFile _ => fields.configFile.isSome
  | readConfig _ => fields.readConfig.isSome
  | parseEnv _ => fields.parseEnv.isSome
  | options _ _ => fields.options.isSome

def keep (fields : ConfigFields) : WrittenField → ConfigFields
  | clientId value => { fields with clientId := some value }
  | configFile path => { fields with configFile := some path }
  | readConfig value => { fields with readConfig := some value }
  | parseEnv name => { fields with parseEnv := some name }
  | options entries _ => { fields with options := some (Table.empty.insertAll entries) }

/-- A field is kept, unless its name has been met before. -/
def step (fields : ConfigFields) (field : WrittenField) : Except Cause ConfigFields :=
  if field.isMet fields then .error (.duplicateField field.name configName) else .ok (field.keep fields)

theorem name_mem (field : WrittenField) : field.name ∈ fieldNames := by
  cases field <;> simp [name, fieldNames]

/-- The value of a field begins with a token. -/
theorem valueTokens_eq (field : WrittenField) :
    ∃ first more, field.valueTokens = first :: more ∧ IsToken first := by
  have option (value : Option String) :
      ∃ first more, optionTokens value = first :: more ∧ IsToken first := by
    cases value <;> exact ⟨_, _, rfl, fun _ => rfl⟩
  cases field with
  | clientId value | configFile value | parseEnv value => exact option value
  | readConfig value =>
    refine ⟨_, _, rfl, ?_⟩
    cases value <;> exact fun _ => rfl
  | options entries trailing => exact ⟨_, _, rfl, fun _ => rfl⟩

end WrittenField

theorem isToken_of_field {name : String} (known : name ∈ fieldNames) :
    IsToken name.toList ∧ ∀ rest, (name.toList ++ rest).head? ≠ some ')' := by
  simp only [fieldNames, List.mem_cons, List.not_mem_nil, or_false] at known
  rcases known with rfl | rfl | rfl | rfl | rfl <;>
    exact ⟨fun _ => rfl, fun _ same => absurd (Option.some.inj same) (by decide)⟩

/-- Behind a name that has not been met, the value is read and kept. A name that has been met is a fault
whatever stands behind it. -/
theorem value_comes {α : Type} {name : String} {field : Option α} {reader : Reader α} {found : α}
    (keep : α → ConfigFields) {text : List Char} {tokens after : List (List Char)}
    {behind : List Char → Prop} (begins : ∃ first more, tokens = first :: more ∧ IsToken first)
    (layout : Layout ([':'] :: (tokens ++ after)) text)
    (reads : ∀ text, Starts (tokens ++ after) text → Comes behind (.ok found) (reader text)) :
    Comes behind
      (if field.isSome then .error (.duplicateField name configName) else .ok (keep found))
      ((do
        unmet name field
        colon
        return keep (← reader) : Reader ConfigFields) text) := by
  cases field with
  | some met =>
    rw [bind_error (show unmet name (some met) text = .error ⟨.duplicateField name configName, text⟩ from rfl)]
    exact rfl
  | none =>
    obtain ⟨first, more, rfl, isToken⟩ := begins
    rw [bind_ok (show unmet name (none : Option α) text = .ok ((), text) from rfl)]
    refine (colon_comes isToken layout).bind fun text starts => ?_
    exact (reads text starts).bind fun text holds => .of_ok rfl holds

theorem readsEach_field : ReadsEach ')' (configField {}) WrittenField.step WrittenField.tokens where
  begins field := ⟨_, _, rfl, isToken_of_field field.name_mem⟩
  reads fields field mark after text separates starts := by
    have colon : ':' ∈ separators := by decide
    rw [configField]
    refine (identifier_comes (isName_of_field field.name_mem) colon starts).bind fun text layout => ?_
    have begins := field.valueTokens_eq
    -- The name that is read selects the reader of the value.
    cases field with
    | clientId value =>
      simp only [WrittenField.name, String.ofList_toList]
      exact value_comes (fun value => { fields with clientId := some value }) begins layout
        fun text starts => optional_comes separates starts
    | configFile path =>
      simp only [WrittenField.name, String.ofList_toList]
      exact value_comes (fun path => { fields with configFile := some path }) begins layout
        fun text starts => optional_comes separates starts
    | readConfig value =>
      simp only [WrittenField.name, String.ofList_toList]
      exact value_comes (fun value => { fields with readConfig := some value }) begins layout
        fun text starts => bool_comes separates starts
    | parseEnv name =>
      simp only [WrittenField.name, String.ofList_toList]
      exact value_comes (fun name => { fields with parseEnv := some name }) begins layout
        fun text starts => optional_comes separates starts
    | options entries trailing =>
      simp only [WrittenField.name, String.ofList_toList]
      exact value_comes (fun table => { fields with options := some table }) begins layout
        fun text starts => stringMap_comes starts

/-! What has been met in the end. -/

namespace WrittenField

/-- The configuration says what the field says. Of equal keys of a map the last one counts. -/
def SaidBy (config : MountConfig) : WrittenField → Prop
  | clientId value => config.clientId = value
  | configFile path => config.configFile = path.map Utf8.encode
  | readConfig value => config.readConfig = value
  | parseEnv name => config.parseEnv = name
  | options entries _ => ∀ key, config.options.get? key = lastWrite key entries

/-- What the fields say that are left out. -/
def defaults : List WrittenField :=
  [clientId none, configFile none, readConfig true, parseEnv none, options [] false]

theorem saidBy_defaults {field : WrittenField} (default : field ∈ defaults) :
    field.SaidBy ({} : ConfigFields).config := by
  simp only [defaults, List.mem_cons, List.not_mem_nil, or_false] at default
  rcases default with rfl | rfl | rfl | rfl | rfl
  case inr.inr.inr.inr => exact fun _ => rfl
  all_goals rfl

theorem saidBy_keep (fields : ConfigFields) (field : WrittenField) :
    field.SaidBy (field.keep fields).config := by
  cases field with
  | options entries trailing =>
    intro key
    exact (get?_insertAll ..).trans Option.or_none
  | _ => exact rfl

theorem saidBy_keep_of_ne {field other : WrittenField} (fields : ConfigFields)
    (distinct : other.name ≠ field.name) :
    other.SaidBy (field.keep fields).config ↔ other.SaidBy fields.config := by
  cases field <;> cases other <;> first | exact absurd rfl distinct | exact Iff.rfl

theorem isMet_keep {field other : WrittenField} (fields : ConfigFields) :
    other.isMet (field.keep fields) = true ↔ other.name = field.name ∨ other.isMet fields = true := by
  cases field <;> cases other <;> simp [keep, isMet, name]

/-- None of the fields has been met before, and no name stands twice among them. -/
def Fresh (fields : ConfigFields) (written : List WrittenField) : Prop :=
  (∀ field ∈ written, ¬field.isMet fields = true) ∧ (written.map name).Nodup

theorem fresh_cons {fields : ConfigFields} {first : WrittenField} {more : List WrittenField} :
    Fresh fields (first :: more) ↔ ¬first.isMet fields = true ∧ Fresh (first.keep fields) more := by
  simp only [Fresh, isMet_keep, List.forall_mem_cons, List.map_cons, List.nodup_cons, List.mem_map, not_or,
    not_exists, not_and]
  constructor
  · rintro ⟨⟨unmet, others⟩, fresh, distinct⟩
    exact ⟨unmet, fun field member => ⟨fresh field member, others field member⟩, distinct⟩
  · rintro ⟨unmet, others, distinct⟩
    exact ⟨⟨unmet, fun field member => (others field member).2⟩,
      fun field member => (others field member).1, distinct⟩

/-- Fields that are fresh are all kept, and nothing else is changed. -/
theorem foldlM_step {fields : ConfigFields} {written : List WrittenField} (fresh : Fresh fields written) :
    ∃ last, written.foldlM step fields = .ok last ∧ (∀ field ∈ written, field.SaidBy last.config) ∧
      ∀ field : WrittenField, field.name ∉ written.map name →
        (field.SaidBy last.config ↔ field.SaidBy fields.config) := by
  induction written generalizing fields with
  | nil => exact ⟨fields, rfl, fun _ member => (nomatch member), fun _ _ => Iff.rfl⟩
  | cons first more ih =>
    have absent : first.name ∉ more.map name := (List.nodup_cons.mp fresh.2).1
    obtain ⟨unmet, fresh⟩ := fresh_cons.mp fresh
    obtain ⟨last, kept, said, unsaid⟩ := ih fresh
    refine ⟨last, ?_, List.forall_mem_cons.mpr ⟨?_, said⟩, fun field absent => ?_⟩
    · rw [List.foldlM_cons, step, if_neg unmet]
      exact kept
    · exact (unsaid first absent).mpr (saidBy_keep fields first)
    · rw [List.map_cons, List.mem_cons, not_or] at absent
      exact (unsaid field absent.2).trans (saidBy_keep_of_ne fields absent.1)

/-- A field whose name has been met is a fault. -/
theorem foldlM_step_repeated {fields : ConfigFields} {written : List WrittenField}
    (repeated : ¬Fresh fields written) :
    ∃ early field late, written = early ++ field :: late ∧
      (field.isMet fields = true ∨ field.name ∈ early.map name) ∧
      written.foldlM step fields = .error (.duplicateField field.name configName) := by
  induction written generalizing fields with
  | nil => exact absurd ⟨fun _ member => (nomatch member), List.nodup_nil⟩ repeated
  | cons first more ih =>
    by_cases met : first.isMet fields = true
    · refine ⟨[], first, more, rfl, .inl met, ?_⟩
      rw [List.foldlM_cons, step, if_pos met]
      rfl
    · obtain ⟨early, field, late, rfl, again, fails⟩ :=
        ih fun fresh => repeated (fresh_cons.mpr ⟨met, fresh⟩)
      refine ⟨first :: early, field, late, rfl, ?_, ?_⟩
      · rw [List.map_cons, List.mem_cons]
        rw [isMet_keep, or_assoc] at again
        exact again.elim (fun same => .inr (.inl same)) (.imp_right .inr)
      · rw [List.foldlM_cons, step, if_neg met]
        exact fails

end WrittenField

/-! Documents. -/

/-- The tokens of a configuration. -/
def configTokens (fields : List WrittenField) (trailing : Bool) : List (List Char) :=
  listTokens '(' ')' trailing (fields.map WrittenField.tokens)

theorem mountConfig_comes {fields : List WrittenField} {trailing : Bool} {text : List Char}
    (starts : Starts (configTokens fields trailing) text) :
    Comes (Layout []) (do return (← fields.foldlM WrittenField.step {}).config)
      (mountConfig {} text) := by
  have begins : Begins text := starts.begins (isToken_separator (by decide))
  have unnamed : structName {} configName text = .ok ((), text) := by
    obtain ⟨rest, rfl, -⟩ := starts
    exact structName_parenthesis configName rest
  rw [mountConfig, bind_ok unnamed, bind_ok begins]
  refine (require_comes _ starts).bind fun text layout => ?_
  refine (enclosed_comes .parenthesis readsEach_field trailing fields {} layout).and_then ?_
  exact fun last text layout => .of_ok rfl layout

theorem document_comes {α : Type} {value : Extensions → Reader α} {outcome : Except Cause α}
    {text : List Char} {more : List (List Char)} (layout : Layout (['('] :: more) text)
    (reads : ∀ text, Starts (['('] :: more) text → Comes (Layout []) outcome (value {} text)) :
    Comes (· = []) outcome (document value text) := by
  have isToken : IsToken ['('] := isToken_separator (by decide)
  refine (blanks_comes isToken layout).bind fun text starts => ?_
  have headless : text.head? ≠ some '#' := by
    obtain ⟨rest, rfl, -⟩ := starts
    exact fun same => absurd (Option.some.inj same) (by decide)
  refine (Comes.of_ok (heads_none headless) starts).bind fun text starts => ?_
  rw [← bind_pure outcome]
  refine (reads text starts).and_then fun found text layout => ?_
  rw [bind_ok layout.blanks_nil]
  exact .of_ok rfl rfl

end Ron

namespace MountConfig

open Ron

/-- The fields are read as they say, whatever their order and their layout, and a field that is left out
has its default. A name that stands twice is a fault, at the second field of that name. -/
theorem parse_layout (fields : List WrittenField) (trailing : Bool) (text : String)
    (layout : Layout (configTokens fields trailing) text.toList) :
    ((fields.map WrittenField.name).Nodup → ∃ config, parse text = .ok config ∧
      (∀ field ∈ fields, field.SaidBy config) ∧
      ∀ field ∈ WrittenField.defaults, field.name ∉ fields.map WrittenField.name →
        field.SaidBy config) ∧
    (¬(fields.map WrittenField.name).Nodup → ∃ early field late position,
      fields = early ++ field :: late ∧ field.name ∈ early.map WrittenField.name ∧
      parse text = .error (.ron ⟨.duplicateField field.name configName, position⟩)) := by
  have comes := document_comes layout fun _ starts => mountConfig_comes starts
  have unmet (field : WrittenField) : ¬field.isMet {} = true := by
    cases field <;> exact Bool.false_ne_true
  constructor
  · intro distinct
    obtain ⟨last, kept, said, unsaid⟩ := WrittenField.foldlM_step ⟨fun field _ => unmet field, distinct⟩
    rw [kept] at comes
    obtain ⟨_, read, rfl⟩ := comes.ok
    refine ⟨last.config, ?_, said, fun field default absent => ?_⟩
    · rw [parse, ofRon, Ron.read, read]
      rfl
    · exact (unsaid field absent).mpr (WrittenField.saidBy_defaults default)
  · intro repeated
    obtain ⟨early, field, late, split, again, fails⟩ :=
      WrittenField.foldlM_step_repeated fun fresh => repeated fresh.2
    rw [fails] at comes
    obtain ⟨place, failed⟩ := comes.error
    have fault : parse text = .error (.ron (Fault.locate ⟨.duplicateField field.name configName, place⟩ text.toList)) := by
      rw [parse, ofRon, Ron.read, failed]
      rfl
    exact ⟨early, field, late, _, split, again.resolve_left (unmet field), fault⟩

/-- Comments of both kinds, one of them nested, stand around the fields of the first text, which have
changed places and leave the others out, and a key of its map stands twice. The second names a field
twice. -/
theorem commented_parse_layout :
    let fields : List WrittenField := [.options [("k", "1"), ("k", "2")] true, .readConfig false]
    let text := "/* /*b*/*/ (options\n : \x7b\"k\":\"1\",\"k\":\"2\",\x7d, // c\n\tread_config:false )"
    let twice : List WrittenField := [.readConfig true, .readConfig false]
    Layout (configTokens fields false) text.toList ∧
      Layout (configTokens twice true) "(read_config:true, read_config:false,)".toList ∧
      (∃ config, parse text = .ok config ∧ config.options.get? "k" = some "2" ∧
        config.readConfig = false ∧ config.parseEnv = none) ∧
      ∃ position, parse "(read_config:true, read_config:false,)" =
        .error (.ron ⟨.duplicateField "read_config" "MountConfig", position⟩) := by
  intro fields text twice
  have inner : BlockRest ['b', '*', '/'] := .other (by decide) .close
  have outer : BlockRest (' ' :: '/' :: '*' :: (['b', '*', '/'] ++ ['*', '/'])) :=
    .other (by decide) (.nested inner .close)
  have space : Filler [' '] := .blank rfl .none
  have nested : Filler ('/' :: '*' :: (_ ++ [' '])) := .block outer space
  have newline : Filler ['\n', ' '] := .blank rfl space
  have line : Filler (' ' :: '/' :: '/' :: ([' ', 'c'] ++ '\n' :: ['\t'])) :=
    .blank rfl (.line (by decide) (.blank rfl .none))
  have next {token text : List Char} {more : List (List Char)} (layout : Layout more text) :
      Layout (token :: more) (token ++ text) := .token .none layout
  have laid : Layout (configTokens fields false) text.toList := by
    have parts : Layout (configTokens fields false) _ :=
      .token nested <| next <| .token newline <| .token space <| next <| next <| next <| next <| next <|
        next <| next <| next <| next <| next <| .token line <| next <| next <| .token space (.ends .none)
    refine (congrArg (Layout _) ?_).mpr parts
    decide +kernel
  have laidTwice : Layout (configTokens twice true) "(read_config:true, read_config:false,)".toList := by
    have parts : Layout (configTokens twice true) _ :=
      next <| next <| next <| next <| next <| .token space <| next <| next <| next <| next (.ends .none)
    refine (congrArg (Layout _) ?_).mpr parts
    decide +kernel
  obtain ⟨config, read, said, others⟩ := (parse_layout fields false text laid).1 (by decide)
  obtain ⟨early, field, late, position, split, again, failed⟩ :=
    (parse_layout twice true _ laidTwice).2 (by decide)
  refine ⟨laid, laidTwice, ⟨config, read, ?_, ?_, ?_⟩, position, ?_⟩
  · exact said (.options [("k", "1"), ("k", "2")] true) (by decide) "k"
  · exact said (.readConfig false) (by decide)
  · exact others (.parseEnv none) (by decide) (by decide)
  · have named : ∀ field ∈ twice, field.name = "read_config" := by decide
    rw [failed, named field (split ▸ List.mem_append_right early List.mem_cons_self)]
    rfl

end MountConfig

end CephMount
