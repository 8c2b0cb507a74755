import CephMount.Proofs.Ron.Values

/-! White space and comments between tokens, and what a reader makes of them.

Filler is told by a grammar of its own. A reader of blanks passes over just the filler before a token,
whatever the token is, and no word or name goes on in filler.
-/

set_option autoImplicit false

namespace CephMount.Ron

open Reader

/-! Filler. -/

/-- One of the two marks of block comments begins the text. -/
def MarksBlock (text : List Char) : Prop :=
  ['/', '*'] <+: text ∨ ['*', '/'] <+: text

instance (text : List Char) : Decidable (MarksBlock text) := inferInstanceAs (Decidable (_ ∨ _))

/-- What stands behind the opening of a block comment, up to where this comment is closed. The comments
inside it are closed as well. -/
inductive BlockRest : List Char → Prop where
  | close : BlockRest ['*', '/']
  | nested {inner rest : List Char} : BlockRest inner → BlockRest rest →
      BlockRest ('/' :: '*' :: (inner ++ rest))
  | other {value : Char} {rest : List Char} : ¬MarksBlock (value :: rest) → BlockRest rest →
      BlockRest (value :: rest)

theorem BlockRest.ne_nil {text : List Char} (closed : BlockRest text) : text ≠ [] := by
  cases closed <;> exact List.cons_ne_nil _ _

/-- Whether a mark begins a text is seen from two characters. -/
theorem MarksBlock.of_append {value : Char} {text rest : List Char}
    (marks : MarksBlock (value :: (text ++ rest))) (some : text ≠ []) : MarksBlock (value :: text) := by
  cases text with
  | nil => exact absurd rfl some
  | cons next text => simpa [MarksBlock] using marks

/-- White space, comments that a newline ends, and block comments, in any order. -/
inductive Filler : List Char → Prop where
  | none : Filler []
  | blank {value : Char} {rest : List Char} : isBlank value = true → Filler rest → Filler (value :: rest)
  | line {comment rest : List Char} : '\n' ∉ comment → Filler rest →
      Filler ('/' :: '/' :: (comment ++ '\n' :: rest))
  | block {comment rest : List Char} : BlockRest comment → Filler rest →
      Filler ('/' :: '*' :: (comment ++ rest))

theorem passBlanks_line {comment : List Char} (unbroken : '\n' ∉ comment) (rest : List Char) :
    passBlanks .line (comment ++ '\n' :: rest) = passBlanks .tokens rest := by
  induction comment with
  | nil => rfl
  | cons first more ih =>
    have other : first ≠ '\n' := fun same => unbroken (same ▸ List.mem_cons_self)
    rw [List.cons_append, passBlanks, if_neg other]
    exact ih fun member => unbroken (List.mem_cons_of_mem first member)

/-- Where a reader of blanks stands behind a block comment with so many more around it. -/
def Between.behindBlock : (around : Nat) → Between
  | 0 => .tokens
  | around + 1 => .block around

/-- In a block comment a character that begins no mark is passed over alone. -/
theorem passBlanks_block_other {value : Char} {text : List Char} (around : Nat)
    (plain : ¬MarksBlock (value :: text)) :
    passBlanks (.block around) (value :: text) = passBlanks (.block around) text := by
  have opens (rest : List Char) (slash : value = '/') (star : text = '*' :: rest) : False := by
    subst slash star
    exact plain (.inl (List.prefix_append ['/', '*'] rest))
  have closes (rest : List Char) (star : value = '*') (slash : text = '/' :: rest) : False := by
    subst slash star
    exact plain (.inr (List.prefix_append ['*', '/'] rest))
  rw [passBlanks]
  · exact opens
  · exact fun rest _ => closes rest
  · exact fun _ rest _ => closes rest

theorem passBlanks_block {comment : List Char} (closed : BlockRest comment) (around : Nat)
    (rest : List Char) :
    passBlanks (.block around) (comment ++ rest) = passBlanks (.behindBlock around) rest := by
  induction closed generalizing around rest with
  | close => cases around <;> rfl
  | nested _ _ inside behind =>
    rw [List.cons_append, List.cons_append, passBlanks, List.append_assoc, inside]
    exact behind around rest
  | @other value text plain behind ih =>
    have still : ¬MarksBlock (value :: (text ++ rest)) := fun marks =>
      plain (marks.of_append behind.ne_nil)
    rw [List.cons_append, passBlanks_block_other around still, ih]

/-- Filler is passed over, whatever stands behind it. -/
theorem passBlanks_filler {filler : List Char} (fills : Filler filler) (rest : List Char) :
    passBlanks .tokens (filler ++ rest) = passBlanks .tokens rest := by
  induction fills with
  | none => rfl
  | @blank value text blank _ ih =>
    have noSlash : value ≠ '/' := by
      rintro rfl
      cases blank
    rw [List.cons_append, passBlanks, if_pos blank, ih] <;> simp [noSlash]
  | line unbroken _ ih =>
    rw [List.cons_append, List.cons_append, passBlanks, List.append_assoc, List.cons_append,
      passBlanks_line unbroken, ih]
  | block closed _ ih =>
    rw [List.cons_append, List.cons_append, passBlanks, List.append_assoc, passBlanks_block closed]
    exact ih

/-! Layouts. -/

/-- The tokens in order, with filler before each of them and behind the last one. -/
inductive Layout : List (List Char) → List Char → Prop where
  | ends {filler : List Char} : Filler filler → Layout [] filler
  | token {filler token text : List Char} {more : List (List Char)} : Filler filler → Layout more text →
      Layout (token :: more) (filler ++ (token ++ text))

/-- A layout of the tokens with no filler before the first of them. -/
def Starts : List (List Char) → List Char → Prop
  | [], text => text = []
  | token :: more, text => ∃ rest, text = token ++ rest ∧ Layout more rest

/-- Neither white space nor a comment begins the token. -/
def IsToken (token : List Char) : Prop := ∀ rest, Begins (token ++ rest)

variable {token text : List Char} {tokens more : List (List Char)}

theorem Starts.layout (starts : Starts tokens text) : Layout tokens text := by
  cases tokens with
  | nil => exact starts ▸ .ends .none
  | cons token more =>
    obtain ⟨rest, rfl, layout⟩ := starts
    exact .token .none layout

theorem Starts.begins (isToken : IsToken token) (starts : Starts (token :: more) text) :
    Begins text := by
  obtain ⟨rest, rfl, -⟩ := starts
  exact isToken rest

/-- What a reader of blanks leaves of a layout starts with the first token. -/
theorem Layout.blanks (isToken : IsToken token) (layout : Layout (token :: more) text) :
    ∃ rest, Ron.blanks text = .ok ((), rest) ∧ Starts (token :: more) rest := by
  cases layout with
  | @token filler _ text _ fills layout =>
    refine ⟨token ++ text, ?_, text, rfl, layout⟩
    have passed := isToken text
    unfold Begins Ron.blanks at passed
    rw [Ron.blanks, passBlanks_filler fills, passed]

theorem Layout.blanks_nil (layout : Layout [] text) : Ron.blanks text = .ok ((), []) := by
  cases layout with
  | ends fills =>
    rw [← List.append_nil text, Ron.blanks, passBlanks_filler fills]
    rfl

theorem isRaw_of_isBlank {value : Char} (blank : isBlank value = true) : isRaw value = false := by
  have numbers : ∀ number ∈ [0x20, 0x09, 0x0A, 0x0D, 0x0B, 0x0C, 0x85, 0x200E, 0x200F, 0x2028, 0x2029],
      isRaw (.ofNat number) = false := by decide +kernel
  rw [← Char.ofNat_toNat value]
  exact numbers value.toNat (of_decide_eq_true blank)

theorem isRaw_slash : isRaw '/' = false := by decide +kernel

theorem stops_cons {value : Char} (other : isRaw value = false) (rest : List Char) :
    Stops (value :: rest) := other

/-- No word or name goes on in filler or in a separator. -/
theorem Layout.stops {mark : Char} (separates : mark ∈ separators)
    (layout : Layout ([mark] :: more) text) : Stops text := by
  cases layout with
  | @token filler _ text _ fills _ =>
    cases fills with
    | none => exact stops_of_separator separates text
    | blank blank _ => exact stops_cons (isRaw_of_isBlank blank) _
    | line | block => exact stops_cons isRaw_slash _

theorem Layout.length_le (layout : Layout tokens text) : tokens.flatten.length ≤ text.length := by
  induction layout with
  | ends fills => exact Nat.zero_le _
  | token fills _ ih =>
    simp only [List.flatten_cons, List.length_append]
    omega

end CephMount.Ron
