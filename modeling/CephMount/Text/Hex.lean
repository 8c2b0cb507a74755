/-! Hexadecimal digits: written in lower case without padding, read in either case. -/

set_option autoImplicit false

namespace CephMount.Hex

def digit (value : Nat) : Char :=
  if value < 10 then Char.ofNat (48 + value) else Char.ofNat (87 + value)

def value? (digit : Char) : Option Nat :=
  let number := digit.toNat
  if 48 ≤ number ∧ number ≤ 57 then some (number - 48)
  else if 65 ≤ number ∧ number ≤ 70 then some (number - 55)
  else if 97 ≤ number ∧ number ≤ 102 then some (number - 87)
  else none

theorem value?_digit : ∀ value < 16, value? (digit value) = some value := by decide

/-- The digits of a number that fits into so many places, the first one not zero unless it is alone. -/
def digits : Nat → Nat → List Char
  | 0, _ => []
  | places + 1, number =>
    if number < 16 then [digit number]
    else digits places (number / 16) ++ [digit (number % 16)]

theorem digits_length_le (places number : Nat) : (digits places number).length ≤ places := by
  induction places generalizing number with
  | zero => simp [digits]
  | succ places ih =>
    unfold digits
    split
    · simp
    · have := ih (number / 16)
      simp only [List.length_append, List.length_singleton]
      omega

end CephMount.Hex
