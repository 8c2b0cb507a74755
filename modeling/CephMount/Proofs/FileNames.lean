import CephMount.FileName

/-! Names of files and lists of them, said without splitting.

A name of a list stands between two commas, or between one and an end of the list, without the blanks
around it. Two names lead the same way exactly when the one can be rewritten into the other by writing
slashes twice or once, by ending in a slash or not, and by putting in dots or leaving them out, none of
which touches how a name begins.
-/

set_option autoImplicit false

namespace CephMount.FileName

/-- Bytes have no separator in them, or one behind the first stretch that has none. -/
@[elab_as_elim]
theorem parted_induction (separator : UInt8) {motive : Bytes → Prop}
    (whole : ∀ bytes, separator ∉ bytes → motive bytes)
    (parted : ∀ first rest, separator ∉ first → motive rest → motive (first ++ separator :: rest))
    (bytes : Bytes) : motive bytes := by
  by_cases parts : separator ∈ bytes
  · obtain ⟨first, rest, split, alone⟩ := List.eq_append_cons_of_mem parts
    rw [split]
    exact parted first rest alone (parted_induction separator whole parted rest)
  · exact whole bytes parts
termination_by bytes.length
decreasing_by
  rw [split, List.length_append, List.length_cons]
  omega

/-! Pieces of a list. -/

/-- The piece stands between two commas of the list, or between one and an end of it. -/
inductive Stands (piece : Bytes) : Bytes → Prop where
  | alone : Stands piece piece
  | first (after : Bytes) : Stands piece (piece ++ comma :: after)
  | last (before : Bytes) : Stands piece (before ++ comma :: piece)
  | between (before after : Bytes) : Stands piece (before ++ comma :: (piece ++ comma :: after))

/-- The bytes are a whole piece of the list. -/
def IsPiece (list piece : Bytes) : Prop := comma ∉ piece ∧ Stands piece list

theorem isPiece_alone {piece : Bytes} (whole : comma ∉ piece) : IsPiece piece piece := ⟨whole, .alone⟩

/-- What stands in the rest of a list stands in the list. -/
theorem Stands.behind {piece rest : Bytes} (stands : Stands piece rest) (before : Bytes) :
    Stands piece (before ++ comma :: rest) := by
  cases stands with
  | alone => exact .last before
  | first after => exact .between before after
  | last early =>
    have later : Stands piece _ := .last (before ++ comma :: early)
    rwa [List.append_assoc, List.cons_append] at later
  | between early after =>
    have later : Stands piece _ := .between (before ++ comma :: early) after
    rwa [List.append_assoc, List.cons_append] at later

theorem isPiece_of_mem {list piece : Bytes} (member : piece ∈ list.splitOn comma) :
    IsPiece list piece := by
  induction list using parted_induction comma with
  | whole list alone =>
    rw [List.splitOn_eq_singleton alone, List.mem_singleton] at member
    subst member
    exact isPiece_alone alone
  | parted first rest alone ih =>
    rw [List.splitOn_append_cons_self_of_not_mem alone, List.mem_cons] at member
    rcases member with rfl | member
    · exact ⟨alone, .first rest⟩
    · have ⟨whole, stands⟩ := ih member
      exact ⟨whole, stands.behind first⟩

theorem mem_splitOn_iff {list piece : Bytes} : piece ∈ list.splitOn comma ↔ IsPiece list piece := by
  refine ⟨isPiece_of_mem, ?_⟩
  rintro ⟨whole, stands⟩
  have alone := List.splitOn_eq_singleton whole
  cases stands <;> simp [List.splitOn_append_cons_self, alone]

/-! Blanks around a name. -/

/-- No blank begins the name or ends it. -/
def Unpadded (name : Bytes) : Prop :=
  (∀ byte, name.head? = some byte → isBlank byte = false) ∧
    ∀ byte, name.getLast? = some byte → isBlank byte = false

/-- The name is the piece without the blanks around it. -/
structure Strips (piece name : Bytes) : Prop where
  padded : ∃ left right, piece = left ++ name ++ right ∧
    (∀ byte ∈ left, isBlank byte = true) ∧ ∀ byte ∈ right, isBlank byte = true
  unpadded : Unpadded name

theorem Unpadded.strips {name : Bytes} (unpadded : Unpadded name) : Strips name name :=
  ⟨⟨[], [], (List.append_nil name).symm, nofun, nofun⟩, unpadded⟩

theorem dropWhile_padding {left rest : Bytes} (blank : ∀ byte ∈ left, isBlank byte = true)
    (starts : ∀ byte, rest.head? = some byte → isBlank byte = false) :
    (left ++ rest).dropWhile isBlank = rest := by
  rw [List.dropWhile_append_of_pos blank]
  cases rest with
  | nil => rfl
  | cons first rest => rw [List.dropWhile_cons_of_neg (by simp [starts first rfl])]

theorem blank_of_mem_takeWhile {bytes : Bytes} :
    ∀ byte ∈ bytes.takeWhile isBlank, isBlank byte = true :=
  fun _ => List.all_eq_true.mp List.all_takeWhile _

theorem head?_dropWhile_blank {bytes : Bytes} {byte : UInt8}
    (head : (bytes.dropWhile isBlank).head? = some byte) : isBlank byte = false := by
  have stops := List.head?_dropWhile_not isBlank bytes
  rw [head] at stops
  simpa using stops

theorem strips_trim (piece : Bytes) : Strips piece (trim piece) := by
  let kept := piece.dropWhile isBlank
  have whole : kept = trim piece ++ (kept.reverse.takeWhile isBlank).reverse := by
    rw [trim, ← List.reverse_append, List.takeWhile_append_dropWhile, List.reverse_reverse]
  refine ⟨⟨piece.takeWhile isBlank, (kept.reverse.takeWhile isBlank).reverse, ?_, blank_of_mem_takeWhile,
    fun byte member => blank_of_mem_takeWhile byte (List.mem_reverse.mp member)⟩, ?_, ?_⟩
  · rw [List.append_assoc, ← whole, List.takeWhile_append_dropWhile]
  · intro byte head
    -- The name begins what is left when the blanks before it are gone.
    suffices kept.head? = some byte from head?_dropWhile_blank this
    rw [whole, List.head?_append, head]
    rfl
  · intro byte last
    rw [trim, List.getLast?_reverse] at last
    exact head?_dropWhile_blank last

theorem trim_eq_iff {piece name : Bytes} : trim piece = name ↔ Strips piece name := by
  refine ⟨fun same => same ▸ strips_trim piece, ?_⟩
  rintro ⟨⟨left, right, rfl, blankLeft, blankRight⟩, starts, ends⟩
  cases name with
  | nil =>
    have nothing : (left ++ right ++ []).dropWhile isBlank = [] :=
      dropWhile_padding (List.forall_mem_append.mpr ⟨blankLeft, blankRight⟩) nofun
    rw [List.append_nil] at nothing
    rw [List.append_nil, trim, nothing]
    rfl
  | cons first rest =>
    have fromLeft : (left ++ (first :: rest ++ right)).dropWhile isBlank = first :: rest ++ right :=
      dropWhile_padding blankLeft starts
    have fromRight : (right.reverse ++ (first :: rest).reverse).dropWhile isBlank = (first :: rest).reverse :=
      dropWhile_padding (fun byte member => blankRight byte (List.mem_reverse.mp member))
        fun byte head => ends byte (by rwa [List.head?_reverse] at head)
    rw [trim, List.append_assoc, fromLeft, List.reverse_append, fromRight, List.reverse_reverse]

/-! Names that lead the same way. -/

/-- One name can be rewritten into the other. Slashes and dots are put in and left out behind a slash, or
at the end of a name that is not empty, and nowhere else. -/
inductive Alike : Bytes → Bytes → Prop where
  | refl (name : Bytes) : Alike name name
  | symm {name other : Bytes} : Alike name other → Alike other name
  | trans {first second third : Bytes} : Alike first second → Alike second third → Alike first third
  | repeated (before after : Bytes) :
      Alike (before ++ slash :: slash :: after) (before ++ slash :: after)
  | dotted (before after : Bytes) :
      Alike (before ++ slash :: dot :: slash :: after) (before ++ slash :: after)
  | dottedEnd (before : Bytes) : Alike (before ++ [slash, dot]) (before ++ [slash])
  | trailing {name : Bytes} : name ≠ [] → Alike (name ++ [slash]) name

theorem components_of_splitOn {name first : Bytes} {rest : List Bytes}
    (parts : name.splitOn slash = first :: rest) :
    components name =
      ⟨first.isEmpty && !rest.isEmpty, (if first = [] then [] else [first]) ++ rest.filter counts⟩ := by
  unfold components
  rw [parts]
  cases first <;> rfl

theorem exists_splitOn (name : Bytes) : ∃ first rest, name.splitOn slash = first :: rest :=
  List.exists_cons_of_ne_nil (List.splitOn_ne_nil slash name)

/-- Parts, each behind a slash. -/
def joined (parts : List Bytes) : Bytes := parts.flatMap (slash :: ·)

theorem eq_joined {name first : Bytes} {rest : List Bytes} (parts : name.splitOn slash = first :: rest) :
    name = first ++ joined rest := by
  induction name using parted_induction slash generalizing first rest with
  | whole name alone =>
    rw [List.splitOn_eq_singleton alone] at parts
    obtain ⟨rfl, rfl⟩ := List.cons.inj parts
    exact (List.append_nil name).symm
  | parted before after alone ih =>
    rw [List.splitOn_append_cons_self_of_not_mem alone] at parts
    obtain ⟨rfl, rfl⟩ := List.cons.inj parts
    obtain ⟨second, later, further⟩ := exists_splitOn after
    rw [further]
    exact congrArg (before ++ slash :: ·) (ih further)

/-- Behind a slash only the parts that count are looked at. -/
theorem components_behind (before : Bytes) {after other : Bytes}
    (same : (after.splitOn slash).filter counts = (other.splitOn slash).filter counts) :
    components (before ++ slash :: after) = components (before ++ slash :: other) := by
  obtain ⟨first, early, parts⟩ := exists_splitOn before
  have whole (rest : Bytes) :
      (before ++ slash :: rest).splitOn slash = first :: (early ++ rest.splitOn slash) := by
    rw [List.splitOn_append_cons_self, parts, List.cons_append]
  have goesOn (rest : Bytes) : (early ++ rest.splitOn slash).isEmpty = false := by
    simp [List.splitOn_ne_nil]
  rw [components_of_splitOn (whole after), components_of_splitOn (whole other), goesOn, goesOn,
    List.filter_append, List.filter_append, same]

theorem Alike.components_eq {name other : Bytes} (alike : Alike name other) :
    components name = components other := by
  have dropped (part : Bytes) (whole : slash ∉ part) (idle : counts part = false) (after : Bytes) :
      ((part ++ slash :: after).splitOn slash).filter counts = (after.splitOn slash).filter counts := by
    rw [List.splitOn_append_cons_self_of_not_mem whole, List.filter_cons_of_neg (by simp [idle])]
  induction alike with
  | refl name => rfl
  | symm _ ih => exact ih.symm
  | trans _ _ left right => exact left.trans right
  | repeated before after =>
    exact components_behind before (dropped [] (by decide) (by decide) after)
  | dotted before after =>
    exact components_behind before (dropped [dot] (by decide) (by decide) after)
  | dottedEnd before => exact components_behind before (by decide)
  | @trailing name some =>
    obtain ⟨first, early, parts⟩ := exists_splitOn name
    have longer : (name ++ [slash]).splitOn slash = first :: (early ++ [[]]) := by
      rw [List.splitOn_append_cons_self, parts, List.splitOn_nil, List.cons_append]
    -- The first part alone tells a name from the root, and it is empty only if there is another one.
    have rooted : (first.isEmpty && !early.isEmpty) = first.isEmpty := by
      cases early with
      | cons second early => simp
      | nil =>
        have whole : name = first := (eq_joined parts).trans (List.append_nil first)
        simpa using whole ▸ some
    rw [components_of_splitOn longer, components_of_splitOn parts, rooted]
    simp [counts]

theorem eq_of_counts {part : Bytes} (idle : counts part = false) : part = [] ∨ part = [dot] := by
  simpa [counts, Decidable.or_iff_not_imp_left] using idle

/-- A part that does not count is left out in front of another one. -/
theorem alike_uncounted {part : Bytes} (idle : counts part = false) (before second : Bytes)
    (rest : List Bytes) :
    Alike (before ++ joined (part :: second :: rest)) (before ++ joined (second :: rest)) := by
  rcases eq_of_counts idle with rfl | rfl
  · exact .repeated before (second ++ joined rest)
  · exact .dotted before (second ++ joined rest)

theorem alike_uncounted_last {part : Bytes} (idle : counts part = false) (before : Bytes) :
    Alike (before ++ joined [part]) (before ++ [slash]) := by
  rcases eq_of_counts idle with rfl | rfl
  · exact .refl _
  · exact .dottedEnd before

/-- Behind something, all parts that do not count are left out. -/
theorem alike_joined (rest : List Bytes) {before : Bytes} (some : before ≠ []) :
    Alike (before ++ joined rest) (before ++ joined (rest.filter counts)) := by
  induction rest generalizing before with
  | nil => exact .refl _
  | cons part rest ih =>
    cases kept : counts part with
    | true =>
      have further : before ++ slash :: part ≠ [] := by simp
      rw [List.filter_cons_of_pos kept]
      simpa [joined] using ih further
    | false =>
      rw [List.filter_cons_of_neg (by simp [kept])]
      cases rest with
      | nil =>
        have ended := (alike_uncounted_last kept before).trans (.trailing some)
        simpa [joined] using ended
      | cons second rest => exact (alike_uncounted kept before second rest).trans (ih some)

/-- The name that a start and parts make up. -/
def Components.text : Components → Bytes
  | ⟨true, []⟩ => [slash]
  | ⟨true, part :: rest⟩ => joined (part :: rest)
  | ⟨false, []⟩ => []
  | ⟨false, first :: rest⟩ => first ++ joined rest

theorem alike_rooted (part : Bytes) (rest : List Bytes) :
    Alike (joined (part :: rest)) (Components.text ⟨true, (part :: rest).filter counts⟩) := by
  induction rest generalizing part with
  | nil =>
    cases kept : counts part with
    | true =>
      rw [List.filter_cons_of_pos kept]
      exact .refl _
    | false =>
      rw [List.filter_cons_of_neg (by simp [kept])]
      exact alike_uncounted_last kept []
  | cons second rest ih =>
    cases kept : counts part with
    | true =>
      rw [List.filter_cons_of_pos kept]
      exact alike_joined (second :: rest) (List.cons_ne_nil slash part)
    | false =>
      rw [List.filter_cons_of_neg (by simp [kept])]
      exact (alike_uncounted kept [] second rest).trans (ih second)

/-- A name can be rewritten into the one that its components make up. -/
theorem alike_text (name : Bytes) : Alike name (components name).text := by
  obtain ⟨first, rest, parts⟩ := exists_splitOn name
  rw [components_of_splitOn parts, eq_joined parts]
  cases first with
  | cons byte first => exact alike_joined rest (List.cons_ne_nil byte first)
  | nil =>
    cases rest with
    | nil => exact .refl _
    | cons part rest => exact alike_rooted part rest

theorem components_eq_iff {name other : Bytes} : components name = components other ↔ Alike name other := by
  refine ⟨fun same => ?_, Alike.components_eq⟩
  have alike := alike_text name
  rw [same] at alike
  exact alike.trans (alike_text other).symm

/-- How a name begins is not touched: a dot there counts, and two dots count everywhere. -/
example : components [dot, slash, 0x61] ≠ components [0x61] ∧
    components [0x61, slash, dot, dot, slash, 0x62] ≠ components [0x62] ∧
    components [slash, slash, dot, slash, 0x61, slash] = components [slash, 0x61] := by decide

/-! Files that a list finds. -/

/-- Some name of the list leads to one of the files. -/
def Finds (files : List Bytes) (list : Bytes) : Prop :=
  ∃ piece name file, IsPiece list piece ∧ Strips piece name ∧ file ∈ files ∧ Alike name file

theorem exists_mem_ofList_iff {files : List Bytes} {list : Bytes} :
    (∃ name ∈ ofList list, ∃ file ∈ files, components file = components name) ↔ Finds files list := by
  constructor
  · rintro ⟨name, listed, file, known, same⟩
    obtain ⟨piece, parted, rfl⟩ := List.mem_map.mp listed
    exact ⟨piece, trim piece, file, mem_splitOn_iff.mp parted, strips_trim piece, known,
      components_eq_iff.mp same.symm⟩
  · rintro ⟨piece, name, file, isPiece, strips, known, alike⟩
    exact ⟨name, List.mem_map.mpr ⟨piece, mem_splitOn_iff.mpr isPiece, trim_eq_iff.mpr strips⟩, file,
      known, alike.components_eq.symm⟩

/-- What a list finds, one with all its pieces finds, in whatever order and among whatever others. -/
theorem Finds.of_pieces {files : List Bytes} {list other : Bytes} (finds : Finds files list)
    (pieces : ∀ piece, IsPiece list piece → IsPiece other piece) : Finds files other := by
  obtain ⟨piece, name, file, isPiece, rest⟩ := finds
  exact ⟨piece, name, file, pieces piece isPiece, rest⟩

/-- A file is found by its own name, if that is no list and has no blanks around it. -/
theorem finds_own {files : List Bytes} {file : Bytes} (known : file ∈ files) (whole : comma ∉ file)
    (unpadded : Unpadded file) : Finds files file :=
  ⟨file, file, file, isPiece_alone whole, unpadded.strips, known, .refl file⟩

end CephMount.FileName
