import CephMount.Bytes

/-! Text as bytes. Writing text is `Utf8.encode`; bytes are read as a list of pieces, each a
character or one maximal ill-formed stretch, and both the strict and the lossy reading are views of
that list. Reading back what was written gives the text.
-/

set_option autoImplicit false

namespace CephMount.Utf8

/-- What the bytes hold at one place. A stretch is ill-formed as far as it agrees with some
character; a sequence that the end of the bytes cuts off is incomplete instead. -/
inductive Piece where
  | character (value : Char)
  | malformed (length : Nat)
  | incomplete
  deriving DecidableEq, Repr

/-- What a leading byte announces: the bytes of its sequence, the bounds of the second byte and the
bits that the lead contributes. -/
structure Lead where
  length : Nat
  low : Nat
  high : Nat
  bits : Nat
  deriving DecidableEq, Repr

/-- The bounds leave out overlong forms, surrogates and numbers past the last character. -/
def lead? (byte : Nat) : Option Lead :=
  if 0xC2 ≤ byte ∧ byte ≤ 0xDF then some ⟨2, 0x80, 0xBF, byte - 0xC0⟩
  else if byte = 0xE0 then some ⟨3, 0xA0, 0xBF, byte - 0xE0⟩
  else if byte = 0xED then some ⟨3, 0x80, 0x9F, byte - 0xE0⟩
  else if 0xE1 ≤ byte ∧ byte ≤ 0xEF then some ⟨3, 0x80, 0xBF, byte - 0xE0⟩
  else if byte = 0xF0 then some ⟨4, 0x90, 0xBF, byte - 0xF0⟩
  else if byte = 0xF4 then some ⟨4, 0x80, 0x8F, byte - 0xF0⟩
  else if 0xF1 ≤ byte ∧ byte ≤ 0xF3 then some ⟨4, 0x80, 0xBF, byte - 0xF0⟩
  else none

def Lead.admits (lead : Lead) (byte : UInt8) : Bool :=
  lead.low ≤ byte.toNat && byte.toNat ≤ lead.high

def isTail (byte : UInt8) : Bool := 0x80 ≤ byte.toNat && byte.toNat ≤ 0xBF

/-- Append the six bits of a continuation byte. -/
def extend (bits : Nat) (byte : UInt8) : Nat := bits * 64 + (byte.toNat - 0x80)

def pieces : Bytes → List Piece
  | [] => []
  | a :: rest =>
    if a.toNat < 0x80 then .character (Char.ofNat a.toNat) :: pieces rest
    else match lead? a.toNat with
    | none => .malformed 1 :: pieces rest
    | some lead => match rest with
      | [] => [.incomplete]
      | b :: rest =>
        if lead.admits b then
          if lead.length = 2 then .character (Char.ofNat (extend lead.bits b)) :: pieces rest
          else match rest with
          | [] => [.incomplete]
          | c :: rest =>
            if isTail c then
              if lead.length = 3 then
                .character (Char.ofNat (extend (extend lead.bits b) c)) :: pieces rest
              else match rest with
              | [] => [.incomplete]
              | d :: rest =>
                if isTail d then
                  .character (Char.ofNat (extend (extend (extend lead.bits b) c) d)) :: pieces rest
                else .malformed 3 :: pieces (d :: rest)
            else .malformed 2 :: pieces (c :: rest)
        else .malformed 1 :: pieces (b :: rest)

def encodeChar (value : Char) : Bytes :=
  let number := value.toNat
  if number < 0x80 then [.ofNat number]
  else if number < 0x800 then [.ofNat (0xC0 + number / 64), .ofNat (0x80 + number % 64)]
  else if number < 0x10000 then
    [.ofNat (0xE0 + number / 4096), .ofNat (0x80 + number / 64 % 64), .ofNat (0x80 + number % 64)]
  else
    [.ofNat (0xF0 + number / 262144), .ofNat (0x80 + number / 4096 % 64),
      .ofNat (0x80 + number / 64 % 64), .ofNat (0x80 + number % 64)]

def encode (text : String) : Bytes := text.toList.flatMap encodeChar

theorem lead?_three (number : Nat) (least : 0x800 ≤ number) (most : number < 0x10000)
    (scalar : number < 0xD800 ∨ 0xDFFF < number) :
    ∃ lead, lead? (0xE0 + number / 4096) = some lead ∧ lead.length = 3 ∧
      lead.bits = number / 4096 ∧
      lead.low ≤ 0x80 + number / 64 % 64 ∧ 0x80 + number / 64 % 64 ≤ lead.high := by
  unfold lead?
  split
  · omega
  split
  · exact ⟨_, rfl, rfl, by simp, by simp; omega, by simp; omega⟩
  split
  · exact ⟨_, rfl, rfl, by simp, by simp, by simp; omega⟩
  split
  · exact ⟨_, rfl, rfl, by simp, by simp, by simp; omega⟩
  · omega

theorem lead?_four (number : Nat) (least : 0x10000 ≤ number) (most : number < 0x110000) :
    ∃ lead, lead? (0xF0 + number / 262144) = some lead ∧ lead.length = 4 ∧
      lead.bits = number / 262144 ∧
      lead.low ≤ 0x80 + number / 4096 % 64 ∧ 0x80 + number / 4096 % 64 ≤ lead.high := by
  unfold lead?
  split
  · omega
  split
  · omega
  split
  · omega
  split
  · omega
  split
  · exact ⟨_, rfl, rfl, by simp, by simp; omega, by simp; omega⟩
  split
  · exact ⟨_, rfl, rfl, by simp, by simp, by simp; omega⟩
  split
  · exact ⟨_, rfl, rfl, by simp, by simp, by simp; omega⟩
  · omega

theorem pieces_two {a b : UInt8} {lead : Lead} (rest : Bytes) (high : ¬a.toNat < 0x80)
    (found : lead? a.toNat = some lead) (length : lead.length = 2) (second : lead.admits b = true) :
    pieces (a :: b :: rest) = .character (Char.ofNat (extend lead.bits b)) :: pieces rest := by
  rw [pieces.eq_2, if_neg high, found]
  simp only [second, length, if_true]

theorem pieces_three {a b c : UInt8} {lead : Lead} (rest : Bytes) (high : ¬a.toNat < 0x80)
    (found : lead? a.toNat = some lead) (length : lead.length = 3) (second : lead.admits b = true)
    (third : isTail c = true) :
    pieces (a :: b :: c :: rest) =
      .character (Char.ofNat (extend (extend lead.bits b) c)) :: pieces rest := by
  rw [pieces.eq_2, if_neg high, found]
  simp [second, third, length]

theorem pieces_four {a b c d : UInt8} {lead : Lead} (rest : Bytes) (high : ¬a.toNat < 0x80)
    (found : lead? a.toNat = some lead) (length : lead.length = 4) (second : lead.admits b = true)
    (third : isTail c = true) (fourth : isTail d = true) :
    pieces (a :: b :: c :: d :: rest) =
      .character (Char.ofNat (extend (extend (extend lead.bits b) c) d)) :: pieces rest := by
  rw [pieces.eq_2, if_neg high, found]
  simp [second, third, fourth, length]

theorem toNat_ofNat (number : Nat) (bound : number < 256) :
    (UInt8.ofNat number).toNat = number := by
  rw [UInt8.toNat_ofNat', Nat.mod_eq_of_lt bound]

theorem Lead.admits_ofNat {lead : Lead} {number : Nat} (bound : number < 256)
    (low : lead.low ≤ number) (high : number ≤ lead.high) :
    lead.admits (.ofNat number) = true := by
  unfold admits
  rw [toNat_ofNat _ bound, Bool.and_eq_true, decide_eq_true_eq, decide_eq_true_eq]
  exact ⟨low, high⟩

theorem isTail_ofNat (number : Nat) : isTail (.ofNat (0x80 + number % 64)) = true := by
  unfold isTail
  rw [toNat_ofNat _ (by omega), Bool.and_eq_true, decide_eq_true_eq, decide_eq_true_eq]
  omega

theorem extend_ofNat (bits number : Nat) :
    extend bits (.ofNat (0x80 + number % 64)) = bits * 64 + number % 64 := by
  unfold extend
  rw [toNat_ofNat _ (by omega)]
  omega

/-- Each character is written so that it is read back, whatever follows. -/
theorem pieces_encodeChar (value : Char) (rest : Bytes) :
    pieces (encodeChar value ++ rest) = .character value :: pieces rest := by
  have scalar : value.toNat < 0xD800 ∨ (0xDFFF < value.toNat ∧ value.toNat < 0x110000) :=
    value.valid
  have same : Char.ofNat value.toNat = value := Char.ofNat_toNat value
  unfold encodeChar
  generalize value.toNat = number at *
  subst same
  dsimp only
  split
  · have head := toNat_ofNat number (by omega)
    rw [List.cons_append, List.nil_append, pieces.eq_2, if_pos (by omega), head]
  split
  · have head := toNat_ofNat (0xC0 + number / 64) (by omega)
    have found : lead? (0xC0 + number / 64) = some ⟨2, 0x80, 0xBF, number / 64⟩ := by
      unfold lead?
      rw [if_pos (by omega), Nat.add_sub_cancel_left]
    rw [← head] at found
    simp only [List.cons_append, List.nil_append]
    rw [pieces_two rest (by omega) found rfl (isTail_ofNat number), extend_ofNat,
      show number / 64 * 64 + number % 64 = number by omega]
  split
  · obtain ⟨lead, found, length, bits, low, high⟩ :=
      lead?_three number (by omega) (by omega) (by omega)
    have head := toNat_ofNat (0xE0 + number / 4096) (by omega)
    rw [← head] at found
    simp only [List.cons_append, List.nil_append]
    rw [pieces_three rest (by omega) found length (lead.admits_ofNat (by omega) low high)
        (isTail_ofNat _), extend_ofNat, extend_ofNat, bits,
      show (number / 4096 * 64 + number / 64 % 64) * 64 + number % 64 = number by omega]
  · obtain ⟨lead, found, length, bits, low, high⟩ :=
      lead?_four number (by omega) (by omega)
    have head := toNat_ofNat (0xF0 + number / 262144) (by omega)
    rw [← head] at found
    simp only [List.cons_append, List.nil_append]
    rw [pieces_four rest (by omega) found length (lead.admits_ofNat (by omega) low high)
        (isTail_ofNat _) (isTail_ofNat _), extend_ofNat, extend_ofNat, extend_ofNat, bits,
      show ((number / 262144 * 64 + number / 4096 % 64) * 64 + number / 64 % 64) * 64 +
        number % 64 = number by omega]

theorem pieces_flatMap_encodeChar (text : List Char) :
    pieces (text.flatMap encodeChar) = text.map .character := by
  induction text with
  | nil => rfl
  | cons value text ih => rw [List.flatMap_cons, pieces_encodeChar, ih, List.map_cons]

/-- Where bytes stop being text: at a stretch of the given length, or in a sequence that the end of
the bytes cuts off. -/
structure Malformation where
  offset : Nat
  length : Option Nat
  deriving DecidableEq, Repr

def Malformation.message (fault : Malformation) : String :=
  match fault.length with
  | some length => "invalid utf-8 sequence of " ++ toString length ++ " bytes from index " ++
      toString fault.offset
  | none => "incomplete utf-8 byte sequence from index " ++ toString fault.offset

/-- Read pieces as characters; `offset` counts the bytes already read. -/
def characters (offset : Nat) : List Piece → Except Malformation (List Char)
  | [] => .ok []
  | .character value :: rest =>
    (characters (offset + (encodeChar value).length) rest).map (value :: ·)
  | .malformed length :: _ => .error ⟨offset, some length⟩
  | .incomplete :: _ => .error ⟨offset, none⟩

/-- The strict reading. -/
def decode (bytes : Bytes) : Except Malformation String :=
  (characters 0 (pieces bytes)).map String.ofList

/-- The mark that stands for bytes that are no text. -/
def replacement : Char := '\uFFFD'

def Piece.lossy : Piece → Char
  | .character value => value
  | .malformed _ | .incomplete => replacement

/-- The lossy reading: one mark for each ill-formed stretch. -/
def lossy (bytes : Bytes) : String := String.ofList ((pieces bytes).map Piece.lossy)

@[simp] theorem lossy_encode (text : String) : lossy (encode text) = text := by
  simp [lossy, encode, pieces_flatMap_encodeChar, Function.comp_def, Piece.lossy]

theorem characters_map_character (text : List Char) (offset : Nat) :
    characters offset (text.map .character) = .ok text := by
  induction text generalizing offset with
  | nil => rfl
  | cons value text ih => simp [characters, ih, Except.map]

@[simp] theorem decode_encode (text : String) : decode (encode text) = .ok text := by
  simp [decode, encode, pieces_flatMap_encodeChar, characters_map_character, Except.map]

/-! What is read was written so. -/

theorem toNat_ofNat_char (number : Nat)
    (scalar : number < 0xD800 ∨ (0xDFFF < number ∧ number < 0x110000)) :
    (Char.ofNat number).toNat = number := by
  have valid : number.isValidChar := scalar
  rw [Char.ofNat, dif_pos valid]
  rfl

theorem ofNat_eq_of_toNat (byte : UInt8) {number : Nat} (same : byte.toNat = number) :
    UInt8.ofNat number = byte := by
  rw [← same, UInt8.ofNat_toNat]

theorem Lead.bounds {lead : Lead} {byte : UInt8} (admitted : lead.admits byte = true) :
    lead.low ≤ byte.toNat ∧ byte.toNat ≤ lead.high := by
  simpa [Lead.admits] using admitted

theorem isTail_bounds {byte : UInt8} (tail : isTail byte = true) :
    0x80 ≤ byte.toNat ∧ byte.toNat ≤ 0xBF := by
  simpa [isTail] using tail

/-- The leads by the length of what they announce. -/
inductive Lead.Announces (lead : Lead) (number : Nat) : Prop where
  | two : lead.length = 2 → lead.bits = number - 0xC0 → 0xC2 ≤ number → number ≤ 0xDF →
      lead.low = 0x80 → lead.high = 0xBF → Announces lead number
  | three : lead.length = 3 → lead.bits = number - 0xE0 → 0xE0 ≤ number → number ≤ 0xEF →
      0x80 ≤ lead.low → lead.high ≤ 0xBF → (number = 0xE0 → 0xA0 ≤ lead.low) →
      (number = 0xED → lead.high ≤ 0x9F) → Announces lead number
  | four : lead.length = 4 → lead.bits = number - 0xF0 → 0xF0 ≤ number → number ≤ 0xF4 →
      0x80 ≤ lead.low → lead.high ≤ 0xBF → (number = 0xF0 → 0x90 ≤ lead.low) →
      (number = 0xF4 → lead.high ≤ 0x8F) → Announces lead number

theorem lead?_announces {number : Nat} {lead : Lead} (found : lead? number = some lead) :
    lead.Announces number := by
  unfold lead? at found
  split at found
  · cases found
    exact .two rfl rfl (by omega) (by omega) rfl rfl
  iterate 3
    split at found
    · cases found
      exact .three rfl (by simp) (by omega) (by omega) (by simp) (by simp) (by simp; try omega)
        (by simp; try omega)
  iterate 3
    split at found
    · cases found
      exact .four rfl (by simp) (by omega) (by omega) (by simp) (by simp) (by simp; try omega)
        (by simp; try omega)
  · cases found

theorem encodeChar_two {a b : UInt8} {lead : Lead} (found : lead? a.toNat = some lead)
    (length : lead.length = 2) (second : lead.admits b = true) :
    encodeChar (Char.ofNat (extend lead.bits b)) = [a, b] := by
  have bounds := Lead.bounds second
  cases lead?_announces found with
  | three other | four other => omega
  | two _ bits least most low high =>
    have number : (Char.ofNat (extend lead.bits b)).toNat = extend lead.bits b :=
      toNat_ofNat_char _ (by unfold extend; omega)
    unfold encodeChar
    rw [number]
    unfold extend
    dsimp only
    rw [if_neg (by omega), if_pos (by omega), ofNat_eq_of_toNat a (by omega),
      ofNat_eq_of_toNat b (by omega)]

theorem encodeChar_three {a b c : UInt8} {lead : Lead} (found : lead? a.toNat = some lead)
    (length : lead.length = 3) (second : lead.admits b = true) (third : isTail c = true) :
    encodeChar (Char.ofNat (extend (extend lead.bits b) c)) = [a, b, c] := by
  have bounds := Lead.bounds second
  have bounds' := isTail_bounds third
  cases lead?_announces found with
  | two other | four other => omega
  | three _ bits least most low high overlong surrogate =>
    have number : (Char.ofNat (extend (extend lead.bits b) c)).toNat =
        extend (extend lead.bits b) c := toNat_ofNat_char _ (by unfold extend; omega)
    unfold encodeChar
    rw [number]
    unfold extend
    dsimp only
    rw [if_neg (by omega), if_neg (by omega), if_pos (by omega),
      ofNat_eq_of_toNat a (by omega), ofNat_eq_of_toNat b (by omega),
      ofNat_eq_of_toNat c (by omega)]

theorem encodeChar_four {a b c d : UInt8} {lead : Lead} (found : lead? a.toNat = some lead)
    (length : lead.length = 4) (second : lead.admits b = true) (third : isTail c = true)
    (fourth : isTail d = true) :
    encodeChar (Char.ofNat (extend (extend (extend lead.bits b) c) d)) = [a, b, c, d] := by
  have bounds := Lead.bounds second
  have bounds' := isTail_bounds third
  have bounds'' := isTail_bounds fourth
  cases lead?_announces found with
  | two other | three other => omega
  | four _ bits least most low high overlong last =>
    have number : (Char.ofNat (extend (extend (extend lead.bits b) c) d)).toNat =
        extend (extend (extend lead.bits b) c) d := toNat_ofNat_char _ (by unfold extend; omega)
    unfold encodeChar
    rw [number]
    unfold extend
    dsimp only
    rw [if_neg (by omega), if_neg (by omega), if_neg (by omega),
      ofNat_eq_of_toNat a (by omega), ofNat_eq_of_toNat b (by omega),
      ofNat_eq_of_toNat c (by omega), ofNat_eq_of_toNat d (by omega)]

theorem encodeChar_ascii {a : UInt8} (low : a.toNat < 0x80) :
    encodeChar (Char.ofNat a.toNat) = [a] := by
  unfold encodeChar
  rw [toNat_ofNat_char _ (by omega)]
  dsimp only
  rw [if_pos low, UInt8.ofNat_toNat]

/-- A character that is read stands there as it is written. -/
theorem encodeChar_segment {bytes : Bytes} {value : Char} (member : .character value ∈ pieces bytes) :
    encodeChar value <:+: bytes := by
  have skipped {rest : Bytes} (chunk : Bytes) (found : encodeChar value <:+: rest) :
      encodeChar value <:+: chunk ++ rest := found.trans (List.suffix_append chunk rest).isInfix
  have read {chunk rest : Bytes} {other : Char} (written : encodeChar other = chunk)
      (ih : .character value ∈ pieces rest → encodeChar value <:+: rest)
      (member : .character value ∈ Piece.character other :: pieces rest) :
      encodeChar value <:+: chunk ++ rest := by
    rcases List.mem_cons.mp member with same | member
    · cases same
      exact written ▸ (List.prefix_append chunk rest).isInfix
    · exact skipped chunk (ih member)
  have passed {rest : Bytes} {length : Nat}
      (member : .character value ∈ Piece.malformed length :: pieces rest) :
      .character value ∈ pieces rest :=
    (List.mem_cons.mp member).resolve_left fun same => nomatch same
  fun_induction pieces bytes with
  | case1 => cases member
  | case2 a rest low ih => exact read (encodeChar_ascii low) ih member
  | case3 a rest _ _ ih => exact skipped [a] (ih (passed member))
  | case4 => cases List.mem_singleton.mp member
  | case5 a _ lead found b rest second length ih =>
    exact read (encodeChar_two found length second) ih member
  | case6 => cases List.mem_singleton.mp member
  | case7 a _ lead found b second _ c rest third length ih =>
    exact read (encodeChar_three found length second third) ih member
  | case8 => cases List.mem_singleton.mp member
  | case9 a _ lead found b second notTwo c third notThree d rest fourth ih =>
    have length : lead.length = 4 := by
      cases lead?_announces found with
      | two length => exact absurd length notTwo
      | three length => exact absurd length notThree
      | four length => exact length
    exact read (encodeChar_four found length second third fourth) ih member
  | case10 a _ _ _ b _ _ c _ _ d rest _ ih => exact skipped [a, b, c] (ih (passed member))
  | case11 a _ _ _ b _ _ c rest _ ih => exact skipped [a, b] (ih (passed member))
  | case12 a _ _ _ b rest _ ih => exact skipped [a] (ih (passed member))

/-- Bytes without a NUL are read as text without one. -/
theorem nul_not_mem_lossy {bytes : Bytes} (unbroken : 0 ∉ bytes) :
    '\x00' ∉ (lossy bytes).toList := by
  intro member
  rw [lossy, String.toList_ofList] at member
  obtain ⟨piece, member, same⟩ := List.mem_map.mp member
  cases piece with
  | character value =>
    obtain rfl : value = '\x00' := same
    exact unbroken ((encodeChar_segment member).subset List.mem_cons_self)
  | malformed length => cases same
  | incomplete => cases same

end CephMount.Utf8
