import CephMount.Ron.Literal
import CephMount.Ron.Written

/-! Strings are read as they were written.

Each character is written as itself or as one escape that stands for it, and no mark that is not hidden
stands inside a string. So the mark that ends it is the first one that the reader finds, whatever
stands behind.
-/

set_option autoImplicit false

namespace CephMount

namespace Hex

theorem digit_ne_brace : ∀ value < 16, digit value ≠ '\x7d' := by decide

/-- The number has at most so many digits. -/
def Fits : (places number : Nat) → Prop
  | 0, number => number = 0
  | places + 1, number => Fits places (number / 16)

theorem digits_ne_nil (places number : Nat) : digits (places + 1) number ≠ [] := by
  unfold digits
  split <;> simp

end Hex

namespace Ron

open Reader

/-! Escapes by number. -/

theorem hexDigit_digit {value : Nat} (small : value < 16) (rest : List Char) :
    hexDigit (Hex.digit value :: rest) = .ok (value, rest) := by
  unfold hexDigit
  rw [bind_ok rfl, Hex.value?_digit value small]
  rfl

theorem numberDigits_digit (places before : Nat) {value : Nat} (small : value < 16)
    (rest : List Char) :
    numberDigits (places + 1) before (Hex.digit value :: rest) =
      numberDigits places (before * 16 + value) rest := by
  rw [numberDigits, bind_ok rfl, List.head?_cons]
  generalize found : some (Hex.digit value) = next
  split
  · cases found
  · exact absurd (Option.some.inj found) (Hex.digit_ne_brace value small)
  · exact bind_ok (hexDigit_digit small rest)

/-- The digits of a number are read back to it. -/
theorem numberDigits_digits {width number : Nat} (fits : Hex.Fits width number) (places : Nat)
    (rest : List Char) :
    let digits := Hex.digits width number
    numberDigits (places + digits.length) 0 (digits ++ rest) = numberDigits places number rest := by
  -- The last digit stands behind the others, so it is the other digits that the induction reads first.
  induction width generalizing number places rest with
  | zero =>
    cases fits
    rfl
  | succ width ih =>
    unfold Hex.digits
    split
    next small =>
      have read := numberDigits_digit places 0 small rest
      rwa [Nat.zero_mul, Nat.zero_add] at read
    next large =>
      have low : number % 16 < 16 := Nat.mod_lt _ (by decide)
      simp only [List.length_append, List.length_singleton, List.append_assoc, List.singleton_append]
      rw [← Nat.add_assoc, Nat.add_right_comm, ih fits, numberDigits_digit _ _ low, Nat.div_add_mod']

theorem toNat_isValidChar (value : Char) : value.toNat.isValidChar := value.valid

theorem numberEscape_digits (value : Char) (rest : List Char) :
    numberEscape ('\x7b' :: (Hex.digits Quoted.numberPlaces value.toNat ++ '\x7d' :: rest)) =
      .ok (value, rest) := by
  have fits : Hex.Fits Quoted.numberPlaces value.toNat := by
    have least : value.toNat < 0x110000 := by
      rcases toNat_isValidChar value with below | above
      · exact Nat.lt_trans below (by decide)
      · exact above.2
    simp only [Quoted.numberPlaces, Hex.Fits]
    omega
  have atLeastOne : 0 < (Hex.digits Quoted.numberPlaces value.toNat).length :=
    List.length_pos_iff.mpr (Hex.digits_ne_nil _ _)
  have most : (Hex.digits Quoted.numberPlaces value.toNat).length ≤ Quoted.numberPlaces :=
    Hex.digits_length_le _ _
  have read := numberDigits_digits fits
    (Quoted.numberPlaces - (Hex.digits Quoted.numberPlaces value.toNat).length) ('\x7d' :: rest)
  simp only [Nat.sub_add_cancel most] at read
  -- The digits leave room for others, or there are as many as there may be.
  have ends : numberDigits Quoted.numberPlaces 0
      (Hex.digits Quoted.numberPlaces value.toNat ++ '\x7d' :: rest) =
        .ok ((value.toNat, true), '\x7d' :: rest) := by
    rw [read]
    cases left : Quoted.numberPlaces - (Hex.digits Quoted.numberPlaces value.toNat).length with
    | zero => rfl
    | succ more =>
      have room : more + 1 < Quoted.numberPlaces := by omega
      rw [numberDigits, bind_ok rfl]
      simp only [List.head?_cons, room, decide_true, pure_apply]
  unfold numberEscape
  rw [bind_ok (require_cons ..), bind_ok ends]
  simp only [Bool.not_true, Bool.false_eq_true, if_false]
  rw [bind_ok (require_cons ..), if_pos (toNat_isValidChar value), Char.ofNat_toNat,
    pure_apply]

/-! Characters. -/

/-- A character of a string is written as itself, or as an escape that is read as it. -/
inductive Writes (value : Char) : List Char → Prop where
  | plain : value ≠ '"' → value ≠ '\\' → Writes value [value]
  | escaped {code : List Char} : (∀ rest, escape .text (code ++ rest) = .ok (value, rest)) →
      Writes value ('\\' :: code)

theorem writes_escape (value : Char) : Writes value (Quoted.escape marks value) := by
  unfold Quoted.escape
  split
  next zero => exact zero ▸ .escaped fun _ => rfl
  split
  next tab => exact tab ▸ .escaped fun _ => rfl
  split
  next carriage => exact carriage ▸ .escaped fun _ => rfl
  split
  next newline => exact newline ▸ .escaped fun _ => rfl
  split
  next marked =>
    refine .escaped fun rest => ?_
    simp only [marks, List.mem_cons, List.not_mem_nil, or_false] at marked
    rcases marked with rfl | rfl | rfl <;> rfl
  next unmarked =>
    split
    · refine .escaped fun rest => ?_
      have text : (['u', '\x7b'] ++ Hex.digits Quoted.numberPlaces value.toNat ++ ['\x7d']) ++ rest =
          'u' :: '\x7b' :: (Hex.digits Quoted.numberPlaces value.toNat ++ '\x7d' :: rest) := by simp
      exact (congrArg (escape .text) text).trans (numberEscape_digits value rest)
    · refine .plain (fun mark => unmarked (.inr ?_)) fun backslash => unmarked (.inl backslash)
      rw [mark]
      exact List.mem_cons_self

/-! Strings. -/

/-- Nothing in the text ends a string or begins an escape. -/
def Plain (text : List Char) : Prop := ∀ value ∈ text, value ≠ '"' ∧ value ≠ '\\'

theorem Plain.nil : Plain [] := fun _ member => nomatch member

variable {use : EscapeUse} {plain : List Char}

theorem takeWhile_of_plain {mark : Char} (marks : mark = '"' ∨ mark = '\\') (clean : Plain plain)
    (rest : List Char) : (plain ++ rest).takeWhile (· != mark) = plain ++ rest.takeWhile (· != mark) := by
  refine List.takeWhile_append_of_pos fun value member => bne_iff_ne.mpr ?_
  rcases marks with rfl | rfl
  · exact (clean value member).1
  · exact (clean value member).2

theorem dropWhile_of_plain (clean : Plain plain) (rest : List Char) :
    (plain ++ rest).dropWhile (· != '"') = rest.dropWhile (· != '"') :=
  List.dropWhile_append_of_pos fun value member => bne_iff_ne.mpr (clean value member).1

theorem stringRest_end (clean : Plain plain) (bound : Nat) (rest : List Char) :
    stringRest use (bound + 1) (plain ++ '"' :: rest) = .ok (plain, rest) := by
  have behind : (plain ++ '"' :: rest).dropWhile (· != '"') = '"' :: rest := by
    rw [dropWhile_of_plain clean]
    rfl
  have body : (plain ++ '"' :: rest).takeWhile (· != '"') = plain := by
    rw [takeWhile_of_plain (.inl rfl) clean]
    simp
  have whole : plain.takeWhile (· != '\\') = plain := by
    simpa using takeWhile_of_plain (.inr rfl) clean []
  rw [stringRest]
  dsimp only
  rw [behind, body, whole]
  exact if_pos rfl

theorem stringRest_escape (clean : Plain plain) (bound : Nat) {text : List Char} (closed : '"' ∈ text) :
    stringRest use (bound + 1) (plain ++ '\\' :: text) =
      (do
        let value ← escape use
        let rest ← stringRest use bound
        return plain ++ value :: rest : Reader (List Char)) text := by
  have behind : (plain ++ '\\' :: text).dropWhile (· != '"') = text.dropWhile (· != '"') := by
    rw [dropWhile_of_plain clean]
    rfl
  have body : (plain ++ '\\' :: text).takeWhile (· != '"') =
      plain ++ '\\' :: text.takeWhile (· != '"') := by
    rw [takeWhile_of_plain (.inl rfl) clean]
    rfl
  have first : (plain ++ '\\' :: text.takeWhile (· != '"')).takeWhile (· != '\\') = plain := by
    rw [takeWhile_of_plain (.inr rfl) clean]
    simp
  have later : (plain ++ '\\' :: text).drop (plain.length + 1) = text := by simp
  rw [stringRest]
  dsimp only
  rw [behind, body, first, later]
  split
  next none =>
    -- The reader looks for the mark that ends the string before it looks at the escape.
    have unmarked : text.all (· != '"') = true := by
      simpa [none] using List.any_dropWhile (p := (· != '"')) (l := text)
    simpa using List.all_eq_true.mp unmarked '"' closed
  · exact if_neg (by simp)

theorem stringRest_written (value : List Char) (clean : Plain plain) (rest : List Char) {bound : Nat}
    (enough : (value.flatMap (Quoted.escape marks)).length < bound) :
    stringRest .text bound (plain ++ (value.flatMap (Quoted.escape marks) ++ '"' :: rest)) =
      .ok (plain ++ value, rest) := by
  obtain ⟨bound, rfl⟩ := Nat.exists_eq_succ_of_ne_zero (Nat.ne_of_gt (Nat.zero_lt_of_lt enough))
  -- The reader takes plain characters together, so the induction carries those before the next escape.
  induction value generalizing plain bound with
  | nil =>
    rw [List.append_nil]
    exact stringRest_end clean bound rest
  | cons first more ih =>
    have written := writes_escape first
    rw [List.flatMap_cons, List.append_assoc]
    rw [List.flatMap_cons, List.length_append] at enough
    generalize Quoted.escape marks first = code at written enough ⊢
    cases written with
    | plain mark backslash =>
      have longer : Plain (plain ++ [first]) := by
        intro character member
        rcases List.mem_append.mp member with earlier | last
        · exact clean character earlier
        · exact List.mem_singleton.mp last ▸ ⟨mark, backslash⟩
      have read := ih longer bound (Nat.lt_of_le_of_lt (Nat.le_add_left ..) enough)
      rwa [List.append_assoc, List.append_assoc] at read
    | @escaped code reads =>
      obtain ⟨bound, rfl⟩ : ∃ fewer, bound = fewer + 1 := by
        refine Nat.exists_eq_succ_of_ne_zero fun none => ?_
        rw [none, List.length_cons] at enough
        omega
      have read := ih Plain.nil bound (by rw [List.length_cons] at enough; omega)
      rw [List.cons_append, stringRest_escape clean _ (by simp), bind_ok (reads _)]
      exact bind_ok read

/-- A string is read as it was written, whatever stands behind it. -/
theorem string_writeString (value : String) (rest : List Char) :
    string (writeString value ++ rest) = .ok (value, rest) := by
  have text : writeString value ++ rest =
      '"' :: (value.toList.flatMap (Quoted.escape marks) ++ '"' :: rest) := by
    simp [writeString]
  have enough : (value.toList.flatMap (Quoted.escape marks)).length <
      (value.toList.flatMap (Quoted.escape marks) ++ '"' :: rest).length + 1 := by
    rw [List.length_append]
    omega
  have read : escapedString .text (value.toList.flatMap (Quoted.escape marks) ++ '"' :: rest) =
      .ok (value.toList, rest) := stringRest_written value.toList Plain.nil rest enough
  rw [text, string, bind_ok (accept_cons ..), if_pos rfl, bind_ok read, String.ofList_toList,
    pure_apply]

end Ron

end CephMount
