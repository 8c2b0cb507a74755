import CephMount.Proofs.InMemory.Options

/-! The one reading of a text as arguments, and what it sets.

Two relations say what a reading is, whatever finds it: which words stand between the white space of a
text, and which arguments the words make up. Of both there is exactly one for each text, whatever it
holds, and setting the options from a text is following its reading.
-/

set_option autoImplicit false

namespace CephMount

open InMemory

/-! Words. -/

/-- The words of a text are what stands between its white space, each of them as long as can be. -/
inductive Spaces : List Char → List Word → Prop where
  | done : Spaces [] []
  | blank {space : Char} {rest : List Char} {words : List Word} :
      Unicode.isWhiteSpace space = true → Spaces rest words → Spaces (space :: rest) words
  | word {word : Word} {rest : List Char} {words : List Word} : word ≠ [] →
      (∀ value ∈ word, Unicode.isWhiteSpace value = false) →
      (∀ next ∈ rest.head?, Unicode.isWhiteSpace next = true) →
      Spaces rest words → Spaces (word ++ rest) (word :: words)

theorem exists_spaces (text : List Char) : ∃ words, Spaces text words := by
  induction text with
  | nil => exact ⟨[], .done⟩
  | cons first rest ih =>
    obtain ⟨words, spaces⟩ := ih
    cases kind : Unicode.isWhiteSpace first with
    | true => exact ⟨words, .blank kind spaces⟩
    | false =>
      -- The character begins a word, which is as long as what is behind it says.
      have alone : [first] ≠ [] ∧ ∀ value ∈ [first], Unicode.isWhiteSpace value = false :=
        ⟨List.cons_ne_nil first [], List.forall_mem_singleton.mpr kind⟩
      cases spaces with
      | done => exact ⟨_, @Spaces.word [first] [] [] alone.1 alone.2 nofun .done⟩
      | @blank space rest words space_blank later =>
        refine ⟨_, @Spaces.word [first] (space :: rest) words alone.1 alone.2 ?_ (.blank space_blank later)⟩
        intro next here
        cases here
        exact space_blank
      | @word word rest words present letters stops later =>
        exact ⟨_, @Spaces.word (first :: word) rest words (List.cons_ne_nil first word)
          (List.forall_mem_cons.mpr ⟨kind, letters⟩) stops later⟩

theorem Spaces.eq_filter {text : List Char} {words : List Word} (spaces : Spaces text words) :
    words = (text.splitOnP Unicode.isWhiteSpace).filter fun word => !word.isEmpty := by
  induction spaces with
  | done => rfl
  | @blank space rest words blank later ih =>
    rw [List.splitOnP_cons_eq_if_modifyHead, if_pos blank, List.filter_cons_of_neg (by simp), ih]
  | @word word rest words present letters stops later ih =>
    have whole : word.splitOnP Unicode.isWhiteSpace = [word] :=
      List.splitOnP_eq_singleton fun value member => by simp [letters value member]
    have kept : (!word.isEmpty) = true := by simpa using present
    cases rest with
    | nil =>
      rw [ih, List.append_nil, whole]
      simp [kept]
    | cons space rest =>
      have blank := stops space rfl
      rw [List.splitOnP_cons_eq_if_modifyHead, if_pos blank] at ih
      rw [ih, List.splitOnP_append_cons word rest blank, whole]
      simp [kept]

/-- Each text has its words, and no others. -/
theorem spaces_iff {text : String} {words : List Word} :
    Spaces text.toList words ↔ words = wordsOf text := by
  refine ⟨Spaces.eq_filter, fun same => ?_⟩
  obtain ⟨others, spaces⟩ := exists_spaces text.toList
  exact same.trans spaces.eq_filter.symm ▸ spaces

namespace Argument

/-! Arguments. -/

/-- The word begins with two dashes. -/
def IsFlag (word : Word) : Prop := ['-', '-'] <+: word

/-- What words make up from left to right. A key has no equals sign, so the first one parts a word; only
a word that is no flag is a value of its own, and only what is no value can be stray. -/
inductive Reads : List Word → List Argument → Prop where
  | done : Reads [] []
  | joined {key value : Word} {rest : List Word} {arguments : List Argument} : '=' ∉ key →
      Reads rest arguments →
      Reads (('-' :: '-' :: (key ++ '=' :: value)) :: rest) (joined key value :: arguments)
  | parted {key value : Word} {rest : List Word} {arguments : List Argument} : '=' ∉ key →
      ¬IsFlag value → Reads rest arguments →
      Reads (('-' :: '-' :: key) :: value :: rest) (parted key value :: arguments)
  | bare {flag : Word} {rest : List Word} {arguments : List Argument} : '=' ∉ flag →
      (∀ next ∈ rest.head?, IsFlag next) → Reads rest arguments →
      Reads (('-' :: '-' :: flag) :: rest) (bare flag :: arguments)
  | stray {word : Word} {rest : List Word} {arguments : List Argument} : ¬IsFlag word →
      Reads rest arguments → Reads (word :: rest) (stray word :: arguments)

theorem flag?_eq_some_iff {word flag : Word} : flag? word = some flag ↔ word = '-' :: '-' :: flag := by
  unfold flag?
  split
  · simp
  next other =>
    constructor
    · intro found
      cases found
    · intro same
      exact absurd same (other flag)

theorem isSome_flag?_iff {word : Word} : (flag? word).isSome = true ↔ IsFlag word := by
  rw [Option.isSome_iff_exists]
  simp only [flag?_eq_some_iff]
  exact ⟨fun ⟨flag, same⟩ => ⟨flag, same.symm⟩, fun ⟨flag, same⟩ => ⟨flag, same.symm⟩⟩

theorem flag?_eq_none_iff {word : Word} : flag? word = none ↔ ¬IsFlag word := by
  rw [← isSome_flag?_iff, Option.not_isSome_iff_eq_none]

/-- A flag without an equals sign is not parted. -/
theorem assignment?_of_not_mem {flag : Word} (whole : '=' ∉ flag) : assignment? flag = none := by
  have nothing : (flag ++ []).dropWhile (· != '=') = [] :=
    List.dropWhile_append_of_pos fun value member => by
      simpa using fun same : value = '=' => whole (same ▸ member)
  rw [List.append_nil] at nothing
  rw [assignment?, nothing]

/-- Any other flag is parted at the first one. -/
theorem assignment?_append {key : Word} (whole : '=' ∉ key) (value : Word) :
    assignment? (key ++ '=' :: value) = some (key, value) := by
  have before : ∀ other ∈ key, (other != '=') = true := fun other member => by
    simpa using fun same : other = '=' => whole (same ▸ member)
  simp [assignment?, List.takeWhile_append_of_pos before, List.dropWhile_append_of_pos before]

theorem eq_append_of_assignment? {flag key value : Word} (parted : assignment? flag = some (key, value)) :
    flag = key ++ '=' :: value ∧ '=' ∉ key := by
  by_cases sign : '=' ∈ flag
  · obtain ⟨before, behind, rfl, whole⟩ := List.eq_append_cons_of_mem sign
    rw [assignment?_append whole] at parted
    cases parted
    exact ⟨rfl, whole⟩
  · rw [assignment?_of_not_mem sign] at parted
    cases parted

theorem not_mem_of_assignment? {flag : Word} (unparted : assignment? flag = none) : '=' ∉ flag := by
  intro sign
  obtain ⟨before, behind, rfl, whole⟩ := List.eq_append_cons_of_mem sign
  rw [assignment?_append whole] at unparted
  cases unparted

/-- The words of a reading are read as it says. -/
theorem Reads.ofWords_eq {words : List Word} {arguments : List Argument} (reads : Reads words arguments) :
    ofWords words = arguments := by
  have flagged (flag : Word) : flag? ('-' :: '-' :: flag) = some flag := flag?_eq_some_iff.mpr rfl
  induction reads with
  | done => rfl
  | @joined key value rest arguments whole later ih =>
    rw [ofWords, flagged]
    simp only [assignment?_append whole, ih]
  | @parted key value rest arguments whole plain later ih =>
    rw [ofWords, flagged]
    simp only [assignment?_of_not_mem whole, flag?_eq_none_iff.mpr plain, Option.isSome_none, ih,
      Bool.false_eq_true, if_false]
  | @bare flag rest arguments whole followed later ih =>
    rw [ofWords, flagged]
    simp only [assignment?_of_not_mem whole]
    cases rest with
    | nil =>
      cases later
      rfl
    | cons next rest => simp only [isSome_flag?_iff.mpr (followed next rfl), if_true, ih]
  | @stray word rest arguments plain later ih =>
    rw [ofWords, flag?_eq_none_iff.mpr plain]
    simp only [ih]

theorem reads_ofWords (words : List Word) : Reads words (ofWords words) := by
  fun_induction ofWords words with
  | case1 => exact .done
  | case2 word rest plain ih => exact .stray (flag?_eq_none_iff.mp plain) ih
  | case3 word rest flag flagged key value parted ih =>
    obtain ⟨rfl, whole⟩ := eq_append_of_assignment? parted
    rw [flag?_eq_some_iff.mp flagged]
    exact .joined whole ih
  | case4 word flag flagged whole =>
    rw [flag?_eq_some_iff.mp flagged]
    exact .bare (not_mem_of_assignment? whole) nofun .done
  | case5 word flag flagged whole next rest also ih =>
    rw [flag?_eq_some_iff.mp flagged]
    refine .bare (not_mem_of_assignment? whole) (fun other here => ?_) ih
    cases here
    exact isSome_flag?_iff.mp also
  | case6 word flag flagged whole value rest plain ih =>
    rw [flag?_eq_some_iff.mp flagged]
    exact .parted (not_mem_of_assignment? whole) (fun is => plain (isSome_flag?_iff.mpr is)) ih

/-- The words of the text make up the arguments. -/
def Reading (text : String) (arguments : List Argument) : Prop :=
  ∃ words, Spaces text.toList words ∧ Reads words arguments

/-- Each text has its reading, and no other. -/
theorem reading_iff {text : String} {arguments : List Argument} :
    Reading text arguments ↔ arguments = ofWords (wordsOf text) := by
  constructor
  · rintro ⟨words, spaces, reads⟩
    rw [← spaces_iff.mp spaces, reads.ofWords_eq]
  · rintro rfl
    exact ⟨wordsOf text, spaces_iff.mpr rfl, reads_ofWords _⟩

/-! What is set. -/

/-- A key is given its value; a flag alone and a stray word do nothing. -/
def assign (table : Table String String) : Argument → Table String String
  | joined key value | parted key value => table.insert (String.ofList key) (String.ofList value)
  | bare _ | stray _ => table

theorem insertAll_setting? (table : Table String String) (arguments : List Argument) :
    table.insertAll (arguments.filterMap setting?) = arguments.foldl assign table := by
  induction arguments generalizing table with
  | nil => rfl
  | cons first rest ih => cases first <;> exact ih _

/-- Each text has exactly one reading. Setting options from the text gives each key of the reading its
value, from left to right, so that the last one of a key stays, and leaves all other options. A request
to read a variable that holds the text does that to the options of the handle, and nothing else. -/
theorem reading_assigns (text : String) :
    ∃ arguments, (∀ others, Reading text others ↔ others = arguments) ∧
      (∀ table : Table String String,
        table.insertAll (settingsOf text) = arguments.foldl assign table ∧
          ∀ key, (table.insertAll (settingsOf text)).get? key =
            (lastWrite key (arguments.filterMap setting?)).or (table.get? key)) ∧
      ∀ (record : Record) (surroundings : Surroundings) (name : Option Terminated),
        surroundings.variableText name = text →
        record.serve surroundings (.parseEnv name) =
          .ok { record with options := arguments.foldl assign record.options } := by
  have sets (table : Table String String) :
      table.insertAll (settingsOf text) = (ofWords (wordsOf text)).foldl assign table :=
    insertAll_setting? table (ofWords (wordsOf text))
  refine ⟨ofWords (wordsOf text), fun others => reading_iff, fun table => ⟨sets table, fun key => ?_⟩, ?_⟩
  · exact get?_insertAll table (settingsOf text) key
  · rintro record surroundings name rfl
    rw [← sets]
    rfl

/-- Keys and values that are empty, hold an equals sign or begin with a dash, a flag before another one
and at the end, and spaces beyond ASCII. -/
theorem edge_words_reading_assigns :
    let text := "-1 --a=1\u3000--b -2 stray --a --=x=y -- --c==\u2009--d=--a --\u00a0=e --b"
    let arguments : List Argument :=
      [stray ['-', '1'], joined ['a'] ['1'], parted ['b'] ['-', '2'], stray "stray".toList, bare ['a'],
        joined [] ['x', '=', 'y'], bare [], joined ['c'] ['='], joined ['d'] ['-', '-', 'a'],
        parted [] ['=', 'e'], bare ['b']]
    let surroundings : Surroundings := { environment := Table.empty.insert "CEPH_ARGS" text }
    let options := Table.empty.insertAll [("", "before"), ("f", "kept")]
    let record : Record := { Record.new none none with options }
    let after := Table.empty.insertAll
      [("", "=e"), ("a", "1"), ("b", "-2"), ("c", "="), ("d", "--a"), ("f", "kept")]
    surroundings.variableText none = text ∧ Reading text arguments ∧
      record.serve surroundings (.parseEnv none) = .ok { record with options := after } := by
  intro text arguments surroundings options record after
  have held : surroundings.variableText none = text := by decide +kernel
  obtain ⟨own, reading, -, served⟩ := reading_assigns text
  have is : arguments = ofWords (wordsOf text) := by decide +kernel
  have reads : Reading text arguments := reading_iff.mpr is
  have left : arguments.foldl assign record.options = after := by decide +kernel
  refine ⟨held, reads, ?_⟩
  rw [served record surroundings none held, ← (reading arguments).mp reads, left]

end Argument

end CephMount
