import CephMount.Text.Utf8

/-! Byte strings that a NUL can end. They are the form in which text crosses the boundary, so bytes
that hold a NUL of their own are refused before any call.
-/

set_option autoImplicit false

namespace CephMount

/-- A byte string that holds no NUL. -/
structure Terminated where
  bytes : Bytes
  unbroken : 0 ∉ bytes
  deriving DecidableEq, Repr

/-- Bytes with a NUL are refused, with the offset of the first one. -/
def Terminated.ofBytes (bytes : Bytes) : Except Nat Terminated :=
  if unbroken : 0 ∉ bytes then .ok ⟨bytes, unbroken⟩ else .error (bytes.idxOf 0)

def Terminated.ofText (text : String) : Except Nat Terminated := ofBytes (Utf8.encode text)

def Terminated.ofOptionalText : Option String → Except Nat (Option Terminated)
  | some text => (ofText text).map some
  | none => .ok none

/-- The bytes before the first NUL. -/
def Terminated.upToNul (bytes : Bytes) : Terminated :=
  ⟨bytes.takeWhile (· != 0), fun member => by
    simpa using List.all_eq_true.mp List.all_takeWhile _ member⟩

/-- The text that the bytes stand for, read without refusing any. -/
def Terminated.text (string : Terminated) : String := Utf8.lossy string.bytes

theorem Terminated.ofBytes_eq_ok_iff {bytes : Bytes} {string : Terminated} :
    ofBytes bytes = .ok string ↔ string.bytes = bytes := by
  cases string with | mk held unbroken =>
  unfold ofBytes
  split
  · simp [eq_comm]
  next broken =>
    constructor
    · intro same
      cases same
    · intro same
      exact absurd (same ▸ unbroken) broken

theorem Terminated.ofBytes_eq_error_iff {bytes : Bytes} {offset : Nat} :
    ofBytes bytes = .error offset ↔ 0 ∈ bytes ∧ offset = bytes.idxOf 0 := by
  unfold ofBytes
  split
  next unbroken => simp [unbroken]
  next broken => simp [Decidable.not_not.mp broken, eq_comm]

theorem Terminated.text_of_ofText {text : String} {string : Terminated}
    (accepted : ofText text = .ok string) : string.text = text := by
  unfold Terminated.text
  rw [ofBytes_eq_ok_iff.mp accepted, Utf8.lossy_encode]

theorem Terminated.upToNul_of_not_mem {bytes : Bytes} (unbroken : 0 ∉ bytes) :
    (upToNul bytes).bytes = bytes := by
  induction bytes with
  | nil => rfl
  | cons first rest ih =>
    have distinct : first ≠ 0 := fun zero => unbroken (zero ▸ List.mem_cons_self)
    have kept := ih fun member => unbroken (List.mem_cons_of_mem _ member)
    simp only [upToNul] at kept
    simp [upToNul, distinct, kept]

end CephMount
