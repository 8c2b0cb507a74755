import CephMount.Text.Utf8

/-! Where bytes stop being text, and how the strict and the lossy reading agree about that place.

All bytes begin with a longest text. Behind it they end, or an ill-formed stretch stands there, or a
sequence that the end of the bytes cuts off. The strict reading tells the place, and the lossy one puts
a mark there and goes on behind the stretch.
-/

set_option autoImplicit false

namespace CephMount.Utf8

/-! Sequences that are cut off, and what would complete them. -/

theorem Lead.admits_low {number : Nat} {lead : Lead} (found : lead? number = some lead) :
    lead.admits (.ofNat lead.low) = true := by
  unfold lead? at found
  repeat' split at found
  all_goals cases found <;> rfl

/-- What a leading byte and a second one announce is the beginning of some character, and the whole of
it only where two bytes are announced. -/
theorem Lead.completes {a b : UInt8} {lead : Lead} (found : lead? a.toNat = some lead)
    (second : lead.admits b = true) :
    ∃ value rest, encodeChar value = [a, b] ++ rest ∧ (lead.length ≠ 2 → rest ≠ []) := by
  have tail : isTail 0x80 = true := by decide
  cases lead?_announces found with
  | two length => exact ⟨_, [], encodeChar_two found length second, fun longer => absurd length longer⟩
  | three length => exact ⟨_, [0x80], encodeChar_three found length second tail, nofun⟩
  | four length => exact ⟨_, [0x80, 0x80], encodeChar_four found length second tail tail, nofun⟩

/-- So is a leading byte by itself. -/
theorem Lead.completes_alone {a : UInt8} {lead : Lead} (found : lead? a.toNat = some lead) :
    ∃ value rest, encodeChar value = [a] ++ rest ∧ rest ≠ [] := by
  obtain ⟨value, rest, written, -⟩ := Lead.completes found (Lead.admits_low found)
  exact ⟨value, _ :: rest, written, nofun⟩

theorem Lead.length_eq_four {number : Nat} {lead : Lead} (found : lead? number = some lead)
    (notTwo : lead.length ≠ 2) (notThree : lead.length ≠ 3) : lead.length = 4 := by
  cases lead?_announces found with
  | two length => exact absurd length notTwo
  | three length => exact absurd length notThree
  | four length => exact length

/-! What is read off bytes. -/

/-- A text is read, and behind it the end, an ill-formed stretch, or the start of a sequence that the end
of the bytes cuts off. -/
inductive Reading : Bytes → List Piece → Prop where
  | whole (text : List Char) : Reading (text.flatMap encodeChar) (text.map .character)
  | malformed (text : List Char) {stretch : Bytes} (rest : Bytes) : stretch ≠ [] → stretch.length ≤ 3 →
      Reading (text.flatMap encodeChar ++ (stretch ++ rest))
        (text.map .character ++ .malformed stretch.length :: pieces rest)
  | incomplete (text : List Char) {start rest : Bytes} {value : Char} : start ≠ [] → rest ≠ [] →
      encodeChar value = start ++ rest →
      Reading (text.flatMap encodeChar ++ start) (text.map .character ++ [.incomplete])

/-- One more character in front is read before everything else. -/
theorem Reading.after {bytes : Bytes} {read : List Piece} (reading : Reading bytes read) {chunk : Bytes}
    {value : Char} (written : encodeChar value = chunk) :
    Reading (chunk ++ bytes) (.character value :: read) := by
  subst written
  cases reading with
  | whole text => exact .whole (value :: text)
  | malformed text rest some short =>
    have longer := Reading.malformed (value :: text) rest some short
    rwa [List.flatMap_cons, List.append_assoc] at longer
  | incomplete text some more starts =>
    have longer := Reading.incomplete (value :: text) some more starts
    rwa [List.flatMap_cons, List.append_assoc] at longer

theorem reading (bytes : Bytes) : Reading bytes (pieces bytes) := by
  -- The cases are those of the reader: after each byte of a sequence it may stop in two ways.
  fun_induction pieces bytes with
  | case1 => exact .whole []
  | case2 a rest low ih => exact ih.after (encodeChar_ascii low)
  | case3 a rest => exact @Reading.malformed [] [a] rest (List.cons_ne_nil _ _) (by simp)
  | case4 a _ lead found =>
    obtain ⟨value, rest, starts, more⟩ := Lead.completes_alone found
    exact .incomplete [] (List.cons_ne_nil _ _) more starts
  | case5 a _ lead found b rest second length ih => exact ih.after (encodeChar_two found length second)
  | case6 a _ lead found b second notTwo =>
    obtain ⟨value, rest, starts, more⟩ := Lead.completes found second
    exact .incomplete [] (List.cons_ne_nil _ _) (more notTwo) starts
  | case7 a _ lead found b second _ c rest third length ih =>
    exact ih.after (encodeChar_three found length second third)
  | case8 a _ lead found b second notTwo c third notThree =>
    have starts := encodeChar_four found (Lead.length_eq_four found notTwo notThree) second third
      (show isTail 0x80 = true by decide)
    exact @Reading.incomplete [] [a, b, c] [0x80] _ (List.cons_ne_nil _ _) (List.cons_ne_nil _ _) starts
  | case9 a _ lead found b second notTwo c third notThree d rest fourth ih =>
    exact ih.after
      (encodeChar_four found (Lead.length_eq_four found notTwo notThree) second third fourth)
  | case10 a _ _ _ b _ _ c _ _ d rest =>
    exact @Reading.malformed [] [a, b, c] (d :: rest) (List.cons_ne_nil _ _) (by simp)
  | case11 a _ _ _ b _ _ c rest =>
    exact @Reading.malformed [] [a, b] (c :: rest) (List.cons_ne_nil _ _) (by simp)
  | case12 a _ _ _ b rest =>
    exact @Reading.malformed [] [a] (b :: rest) (List.cons_ne_nil _ _) (by simp)

/-! The longest text that bytes begin with. -/

/-- The text is written at the beginning of the bytes, and no longer one is. -/
structure LongestText (bytes : Bytes) (text : String) : Prop where
  begins : encode text <+: bytes
  longest : ∀ other, encode other <+: bytes → (encode other).length ≤ (encode text).length

theorem encode_ofList (text : List Char) : encode (String.ofList text) = text.flatMap encodeChar := by
  rw [encode, String.toList_ofList]

theorem pieces_append (text : List Char) (rest : Bytes) :
    pieces (text.flatMap encodeChar ++ rest) = text.map .character ++ pieces rest := by
  induction text with
  | nil => rfl
  | cons value text ih =>
    rw [List.flatMap_cons, List.append_assoc, pieces_encodeChar, ih, List.map_cons, List.cons_append]

/-- Behind a text, bytes at which no character is read go on with no text. -/
theorem longestText_append {text : List Char} {rest : Bytes}
    (stuck : ∀ value, (pieces rest).head? ≠ some (.character value)) :
    LongestText (text.flatMap encodeChar ++ rest) (String.ofList text) where
  begins := encode_ofList text ▸ List.prefix_append _ rest
  longest := by
    rintro other ⟨more, whole⟩
    -- Both texts are read first, so one of them begins with the other.
    have both : other.toList.map .character ++ pieces more = text.map .character ++ pieces rest := by
      rw [← pieces_append, ← pieces_append, ← whole]
      rfl
    rw [encode, encode_ofList]
    rcases List.append_eq_append_iff.mp both with ⟨between, shorter, -⟩ | ⟨between, longer, goes⟩
    · obtain ⟨first, last, rfl, same, -⟩ := List.map_eq_append_iff.mp shorter
      rw [(List.map_inj_right fun _ _ => Piece.character.inj).mp same, List.flatMap_append,
        List.length_append]
      exact Nat.le_add_right _ _
    · obtain ⟨first, last, split, same, rfl⟩ := List.map_eq_append_iff.mp longer
      cases last with
      | nil =>
        have equal := (List.map_inj_right fun _ _ => Piece.character.inj).mp same
        exact Nat.le_of_eq (by rw [split, List.append_nil, equal])
      | cons value last => exact absurd (congrArg List.head? goes) (stuck value)

/-! The two readings. -/

theorem characters_append (text : List Char) (offset : Nat) (left : List Piece) :
    characters offset (text.map .character ++ left) =
      (characters (offset + (text.flatMap encodeChar).length) left).map (text ++ ·) := by
  induction text generalizing offset with
  | nil =>
    rw [List.map_nil, List.nil_append, List.flatMap_nil, List.length_nil, Nat.add_zero]
    cases characters offset left <;> rfl
  | cons value text ih =>
    rw [List.map_cons, List.cons_append, characters, ih, List.flatMap_cons, List.length_append,
      Nat.add_assoc]
    cases characters _ left <;> rfl

theorem lossy_append (text : List Char) (rest : Bytes) :
    lossy (text.flatMap encodeChar ++ rest) = String.ofList text ++ lossy rest := by
  have kept : (text.map Piece.character).map Piece.lossy = text := by simp [Piece.lossy, Function.comp_def]
  rw [lossy, pieces_append, List.map_append, kept, String.ofList_append]
  rfl

theorem decode_append {text : List Char} {rest : Bytes} {fault : Malformation}
    (fails : characters (text.flatMap encodeChar).length (pieces rest) = .error fault) :
    decode (text.flatMap encodeChar ++ rest) = .error fault := by
  rw [decode, pieces_append, characters_append, Nat.zero_add, fails]
  rfl

/-- What is read behind the text that bytes begin with: the strict reading tells how much of it is no
text, and the lossy one gives a mark and what it reads behind that. -/
inductive Malformation.Marks (bytes : Bytes) : Malformation → String → Prop where
  | stretch {offset length : Nat} : 1 ≤ length → length ≤ 3 → offset + length ≤ bytes.length →
      Marks bytes ⟨offset, some length⟩
        (String.singleton replacement ++ lossy (bytes.drop (offset + length)))
  | incomplete {offset : Nat} {value : Char} : offset < bytes.length →
      bytes.drop offset <+: encodeChar value → bytes.drop offset ≠ encodeChar value →
      Marks bytes ⟨offset, none⟩ (String.singleton replacement)

/-- Bytes that are written text are read as that text, and others fail where the longest text that they
begin with is over. -/
theorem decode_cases (bytes : Bytes) :
    (∃ text, encode text = bytes ∧ decode bytes = .ok text ∧ lossy bytes = text) ∨
      ∃ text fault behind, LongestText bytes text ∧ decode bytes = .error fault ∧
        fault.offset = (encode text).length ∧ fault.Marks bytes behind ∧ lossy bytes = text ++ behind := by
  have read := reading bytes
  generalize is : pieces bytes = left at read
  cases read with
  | whole text =>
    refine .inl ⟨String.ofList text, encode_ofList text, ?_, ?_⟩
    · rw [← encode_ofList, decode_encode]
    · rw [← encode_ofList, lossy_encode]
  | @malformed text stretch rest some short =>
    rw [pieces_append] at is
    have own : pieces (stretch ++ rest) = _ := List.append_cancel_left is
    have marked : lossy (stretch ++ rest) = String.singleton replacement ++ lossy rest := by
      rw [lossy, own, List.map_cons, String.ofList_cons]
      rfl
    refine .inr ⟨String.ofList text, ⟨(text.flatMap encodeChar).length, stretch.length⟩, _,
      longestText_append (by simp [own]), decode_append (by rw [own]; rfl), by rw [encode_ofList],
      ?_, by rw [lossy_append, marked]⟩
    have behind : (text.flatMap encodeChar ++ (stretch ++ rest)).drop
        ((text.flatMap encodeChar).length + stretch.length) = rest := by
      rw [List.drop_length_add_append, List.drop_left]
    have within : (text.flatMap encodeChar).length + stretch.length ≤
        (text.flatMap encodeChar ++ (stretch ++ rest)).length := by simp
    have marks := Malformation.Marks.stretch (List.length_pos_iff.mpr some) short within
    rwa [behind] at marks
  | @incomplete text start rest value some more starts =>
    rw [pieces_append] at is
    have own : pieces start = _ := List.append_cancel_left is
    refine .inr ⟨String.ofList text, ⟨(text.flatMap encodeChar).length, none⟩,
      String.singleton replacement, longestText_append (by simp [own]),
      decode_append (by rw [own]; rfl), by rw [encode_ofList], ?_, ?_⟩
    · refine @Malformation.Marks.incomplete _ _ value (by simpa using List.length_pos_iff.mpr some) ?_ ?_
      · rw [List.drop_left, starts]
        exact List.prefix_append start rest
      · rw [List.drop_left, starts]
        exact fun same => more (List.append_cancel_left ((List.append_nil start).trans same)).symm
    · rw [lossy_append, lossy, own]
      rfl

theorem decode_eq_ok_iff {bytes : Bytes} {text : String} :
    decode bytes = .ok text ↔ encode text = bytes := by
  constructor
  · intro decoded
    rcases decode_cases bytes with ⟨other, written, also, -⟩ | ⟨_, _, _, -, failed, -⟩
    · cases decoded.symm.trans also
      exact written
    · cases decoded.symm.trans failed
  · rintro rfl
    exact decode_encode text

/-- What is read strictly is what is read when nothing is refused. -/
theorem lossy_of_decode {bytes : Bytes} {text : String} (decoded : decode bytes = .ok text) :
    lossy bytes = text := by
  rw [← decode_eq_ok_iff.mp decoded, lossy_encode]

end CephMount.Utf8
