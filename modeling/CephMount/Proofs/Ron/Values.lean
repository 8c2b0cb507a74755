import CephMount.Proofs.Ron.Strings
import CephMount.Ron.Decoded

/-! Names, words, options and lists are read as they were written.

A word or a name is read up to its end as long as no character behind it lengthens it. Items with commas
between them are read one after the other, up to the bracket that closes them.
-/

set_option autoImplicit false

namespace CephMount.Ron

open Reader

/-- No word or name that stands before the text goes on in it. -/
def Stops (text : List Char) : Prop := text.head?.any isRaw = false

/-- Neither white space nor a comment begins the text. -/
def Begins (text : List Char) : Prop := blanks text = .ok ((), text)

variable {text rest name : List Char}

theorem takeWhile_of_stops {accept : Char → Bool} (inside : name.all accept = true)
    (ends : rest.head?.any accept = false) : (name ++ rest).takeWhile accept = name := by
  rw [List.takeWhile_append_of_pos (List.all_eq_true.mp inside)]
  cases rest with
  | nil => exact List.append_nil name
  | cons first more =>
    have other : ¬accept first = true := Bool.eq_false_iff.mp ends
    rw [List.takeWhile_cons_of_neg other, List.append_nil]

theorem dropWhile_of_stops {accept : Char → Bool} (inside : name.all accept = true)
    (ends : rest.head?.any accept = false) : (name ++ rest).dropWhile accept = rest := by
  rw [List.dropWhile_append_of_pos (List.all_eq_true.mp inside)]
  cases rest with
  | nil => rfl
  | cons first more => exact List.dropWhile_cons_of_neg (Bool.eq_false_iff.mp ends)

theorem isRaw_of_isIdentifierContinue {value : Char}
    (inside : Unicode.isIdentifierContinue value = true) : isRaw value = true := by
  simp [isRaw, inside]

theorem Stops.word (stops : Stops rest) : rest.head?.any Unicode.isIdentifierContinue = false := by
  cases rest with
  | nil => rfl
  | cons first more =>
    refine Bool.eq_false_iff.mpr fun inside => ?_
    exact Bool.eq_false_iff.mp stops (isRaw_of_isIdentifierContinue inside)

/-- What stands between names and values. -/
def separators : List Char := ['(', ')', '\x7b', '\x7d', ',', ':']

theorem stops_of_separator {mark : Char} (separates : mark ∈ separators) (rest : List Char) :
    Stops (mark :: rest) := by
  change isRaw mark = false
  simp only [separators, List.mem_cons, List.not_mem_nil, or_false] at separates
  rcases separates with rfl | rfl | rfl | rfl | rfl | rfl <;> decide +kernel

/-! Names and words. -/

/-- A plain name that neither marks a raw one nor looks like the beginning of a literal. -/
structure IsName (name : List Char) : Prop where
  first : name.head?.any isFirst = true
  inside : name.all Unicode.isIdentifierContinue = true
  noLiteral : ∀ rest, startsLiteral (name ++ rest) = false
  unmarked : ∀ rest, ['r', '#'].isPrefixOf (name ++ rest) = false

theorem identifier_append (isName : IsName name) (stops : Stops rest) :
    identifier (name ++ rest) = .ok (name, rest) := by
  obtain ⟨first, inside, noLiteral, unmarked⟩ := isName
  have raw : name.all isRaw = true := List.all_eq_true.mpr fun value member =>
    isRaw_of_isIdentifierContinue (List.all_eq_true.mp inside value member)
  have plain := takeWhile_of_stops inside stops.word
  have behind := dropWhile_of_stops inside stops.word
  have run := takeWhile_of_stops raw stops
  have noLiteral := noLiteral rest
  have unmarked := unmarked rest
  cases name with
  | nil => cases first
  | cons letter more =>
    have begins : isFirst letter = true := first
    rw [List.cons_append] at plain behind run noLiteral unmarked ⊢
    simp [identifier, begins, noLiteral, unmarked, plain, behind, run]

theorem acceptWord_append (word : List Char) (stops : Stops rest) :
    acceptWord word (word ++ rest) = .ok (true, rest) := by
  have starts : startsWord word (word ++ rest) = true := by
    simp [startsWord, stops.word]
  simp [acceptWord, starts]

theorem bool_writeBool (value : Bool) (stops : Stops rest) :
    bool (writeBool value ++ rest) = .ok (value, rest) := by
  cases value with
  | true =>
    have word : acceptWord ['t', 'r', 'u', 'e'] (writeBool true ++ rest) = .ok (true, rest) :=
      acceptWord_append _ stops
    rw [bool, bind_ok word]
    rfl
  | false =>
    have other : acceptWord ['t', 'r', 'u', 'e'] (writeBool false ++ rest) =
        .ok (false, writeBool false ++ rest) := rfl
    have word : acceptWord ['f', 'a', 'l', 's', 'e'] (writeBool false ++ rest) = .ok (true, rest) :=
      acceptWord_append _ stops
    rw [bool, bind_ok other]
    exact bind_ok word

theorem colon_cons (begins : Begins rest) : colon (':' :: rest) = .ok ((), rest) := by
  rw [colon, bind_ok (show blanks (':' :: rest) = .ok ((), ':' :: rest) from rfl),
    bind_ok (require_cons ..)]
  exact begins

theorem comma_cons (begins : Begins rest) : comma (',' :: rest) = .ok (true, rest) := by
  rw [comma, bind_ok (show blanks (',' :: rest) = .ok ((), ',' :: rest) from rfl),
    bind_ok (accept_cons ..), if_pos rfl, bind_ok begins]
  rfl

/-- An option is read as it was written, with its content in parentheses of its own. -/
theorem optional_writeOption (extensions : Extensions) (value : Option String) (stops : Stops rest) :
    optional extensions (fun _ => string) (writeOption value ++ rest) = .ok (value, rest) := by
  cases value with
  | none =>
    have word : acceptWord ['N', 'o', 'n', 'e'] (writeOption none ++ rest) = .ok (true, rest) :=
      acceptWord_append _ stops
    rw [optional, bind_ok word]
    rfl
  | some value =>
    let content := '(' :: (writeString value ++ ')' :: rest)
    have written : writeOption (some value) ++ rest = ['S', 'o', 'm', 'e'] ++ content := by
      change ['S', 'o', 'm', 'e', '('] ++ writeString value ++ [')'] ++ rest = _
      simp [content]
    have other : acceptWord ['N', 'o', 'n', 'e'] (['S', 'o', 'm', 'e'] ++ content) =
        .ok (false, ['S', 'o', 'm', 'e'] ++ content) := rfl
    have word : acceptWord ['S', 'o', 'm', 'e'] (['S', 'o', 'm', 'e'] ++ content) =
        .ok (true, content) := acceptWord_append _ (stops_of_separator (by decide) _)
    have opening : Begins content := rfl
    have inside : Begins (writeString value ++ ')' :: rest) := rfl
    have noComma : comma (')' :: rest) = .ok (false, ')' :: rest) := rfl
    rw [written, optional, bind_ok other, if_neg Bool.false_ne_true, bind_ok word, if_pos rfl,
      bind_ok opening, bind_ok (accept_cons ..), if_pos rfl, bind_ok inside,
      bind_ok (string_writeString ..), bind_ok noComma, bind_ok (require_cons ..)]
    rfl

/-! Lists. -/

variable {α : Type} {closing : Char} {item : α → Reader α} {state next last : α}
  {items more : List (List Char)}

/-- The text is read as an item that takes one state to the next, and never for blanks or the end. -/
structure ReadsItem (closing : Char) (item : α → Reader α) (state : α) (text : List Char)
    (next : α) : Prop where
  begins : ∀ rest, Begins (text ++ rest)
  continues : ∀ rest, (text ++ rest).head? ≠ some closing
  reads : ∀ rest, Stops rest → item state (text ++ rest) = .ok (next, rest)

/-- The texts are read as items, each from the state that the one before it left. -/
inductive ReadsItems (closing : Char) (item : α → Reader α) : α → List (List Char) → α → Prop where
  | none {state : α} : ReadsItems closing item state [] state
  | item {state next last : α} {text : List Char} {more : List (List Char)} :
      ReadsItem closing item state text next → ReadsItems closing item next more last →
      ReadsItems closing item state (text :: more) last

theorem ReadsItems.append (left : ReadsItems closing item state items next)
    (right : ReadsItems closing item next more last) :
    ReadsItems closing item state (items ++ more) last := by
  induction left with
  | none => exact right
  | item reads _ ih => exact .item reads (ih right)

/-- The brackets that close a list. -/
inductive Closes : Char → Prop where
  | parenthesis : Closes ')'
  | brace : Closes '\x7d'

theorem Closes.begins (closes : Closes closing) (rest : List Char) : Begins (closing :: rest) := by
  cases closes <;> rfl

theorem Closes.stops (closes : Closes closing) (rest : List Char) : Stops (closing :: rest) := by
  refine stops_of_separator ?_ rest
  cases closes <;> decide

theorem Closes.noComma (closes : Closes closing) (rest : List Char) :
    comma (closing :: rest) = .ok (false, closing :: rest) := by
  cases closes <;> rfl

theorem separatedBy_closing (closes : Closes closing) (bound : Nat) (afterComma : Bool) (state : α)
    (rest : List Char) :
    separatedBy closing item (bound + 1) afterComma state (closing :: rest) =
      .ok (state, closing :: rest) := by
  rw [separatedBy, bind_ok (closes.begins rest), bind_ok rfl]
  exact congrFun (if_pos rfl) _

theorem separatedBy_item (reads : ReadsItem closing item state text next) (bound : Nat)
    (stops : Stops rest) :
    separatedBy closing item (bound + 1) true state (text ++ rest) =
      (do
        let afterComma ← comma
        separatedBy closing item bound afterComma next : Reader α) rest := by
  rw [separatedBy, bind_ok (reads.begins rest), bind_ok rfl, if_neg (reads.continues rest),
    if_neg (by decide)]
  exact bind_ok (reads.reads rest stops)

theorem separatedBy_intercalate (closes : Closes closing)
    (reads : ReadsItems closing item state items last) {bound : Nat} (enough : items.length < bound)
    (rest : List Char) :
    separatedBy closing item bound true state ([','].intercalate items ++ closing :: rest) =
      .ok (last, closing :: rest) := by
  obtain ⟨bound, rfl⟩ := Nat.exists_eq_succ_of_ne_zero (Nat.ne_of_gt (Nat.zero_lt_of_lt enough))
  induction reads generalizing bound with
  | none => exact separatedBy_closing closes bound true _ rest
  | @item state next last text more reads others ih =>
    obtain ⟨bound, rfl⟩ := Nat.exists_eq_succ_of_ne_zero (Nat.ne_of_gt (Nat.zero_lt_of_lt (Nat.lt_of_succ_lt_succ enough)))
    cases others with
    | none =>
      rw [List.intercalate_singleton, separatedBy_item reads _ (closes.stops rest),
        bind_ok (closes.noComma rest)]
      exact separatedBy_closing closes bound false _ rest
    | @item _ after _ second others readsSecond _ =>
      have begins : Begins ([','].intercalate (second :: others) ++ closing :: rest) := by
        cases others with
        | nil => exact List.intercalate_singleton ▸ readsSecond.begins _
        | cons third others =>
          rw [List.intercalate_cons_cons, List.append_assoc, List.append_assoc]
          exact readsSecond.begins _
      rw [List.intercalate_cons_cons, List.append_assoc, List.append_assoc,
        List.singleton_append,
        separatedBy_item reads _ (stops_of_separator (by decide) _), bind_ok (comma_cons begins)]
      exact ih bound (Nat.lt_of_succ_lt_succ enough)

theorem length_le_intercalate (items : List (List Char)) :
    items.length ≤ ([','].intercalate items).length + 1 := by
  induction items with
  | nil => exact Nat.zero_le _
  | cons text more ih =>
    cases more with
    | nil => simp
    | cons second others =>
      rw [List.intercalate_cons_cons, List.length_cons]
      simp only [List.length_append, List.length_singleton] at ih ⊢
      omega

/-- Items in brackets are read as they were written, and the closing bracket is taken. -/
theorem enclosed_intercalate (closes : Closes closing)
    (reads : ReadsItems closing item state items last) (rest : List Char) :
    enclosed closing item state ([','].intercalate items ++ closing :: rest) = .ok (last, rest) := by
  have enough : items.length < ([','].intercalate items ++ closing :: rest).length + 1 := by
    have := length_le_intercalate items
    rw [List.length_append, List.length_cons]
    omega
  have read : separated closing item state ([','].intercalate items ++ closing :: rest) =
      .ok (last, closing :: rest) := separatedBy_intercalate closes reads enough rest
  rw [enclosed, bind_ok read]
  rfl

end CephMount.Ron
