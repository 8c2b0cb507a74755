/-! Finite maps in canonical form: the entries stand in increasing order of their keys, so two maps
that answer every look-up alike are equal, and reading a map out lists its keys in order.
-/

set_option autoImplicit false

namespace CephMount

open Std

variable {κ ν : Type} [Ord κ]

/-- A finite map, each key once and in increasing order. -/
structure Table (κ ν : Type) [Ord κ] where
  entries : List (κ × ν)
  ordered : entries.Pairwise fun first second => compare first.1 second.1 = .lt
  deriving DecidableEq, Repr

namespace Table

def empty : Table κ ν := ⟨[], .nil⟩

def lookup (key : κ) : List (κ × ν) → Option ν
  | [] => none
  | entry :: rest => if compare key entry.1 = .eq then some entry.2 else lookup key rest

def get? (table : Table κ ν) (key : κ) : Option ν := lookup key table.entries

def contains (table : Table κ ν) (key : κ) : Bool := (table.get? key).isSome

def keys (table : Table κ ν) : List κ := table.entries.map Prod.fst

def size (table : Table κ ν) : Nat := table.entries.length

/-- Put an entry in its place; an entry with that key gives way. -/
def place (key : κ) (value : ν) : List (κ × ν) → List (κ × ν)
  | [] => [(key, value)]
  | entry :: rest =>
    match compare key entry.1 with
    | .lt => (key, value) :: entry :: rest
    | .eq => (key, value) :: rest
    | .gt => entry :: place key value rest

theorem mem_place {key : κ} {value : ν} {entries : List (κ × ν)} {entry : κ × ν}
    (member : entry ∈ place key value entries) : entry = (key, value) ∨ entry ∈ entries := by
  induction entries with
  | nil => exact Or.inl (List.mem_singleton.mp member)
  | cons first rest ih =>
    unfold place at member
    split at member
    · exact List.mem_cons.mp member
    · rcases List.mem_cons.mp member with same | member
      · exact Or.inl same
      · exact Or.inr (List.mem_cons_of_mem _ member)
    · rcases List.mem_cons.mp member with same | member
      · exact Or.inr (same ▸ List.mem_cons_self)
      · exact (ih member).imp id (List.mem_cons_of_mem _)

theorem place_ordered [TransOrd κ] [LawfulEqOrd κ] (key : κ) (value : ν) {entries : List (κ × ν)}
    (ordered : entries.Pairwise fun first second => compare first.1 second.1 = .lt) :
    (place key value entries).Pairwise fun first second => compare first.1 second.1 = .lt := by
  induction entries with
  | nil => exact List.pairwise_singleton _ _
  | cons first rest ih =>
    obtain ⟨below, ordered⟩ := List.pairwise_cons.mp ordered
    unfold place
    split
    next less =>
      refine List.pairwise_cons.mpr ⟨?_, List.pairwise_cons.mpr ⟨below, ordered⟩⟩
      intro entry member
      rcases List.mem_cons.mp member with same | member
      · exact same ▸ less
      · exact TransCmp.lt_trans less (below entry member)
    next same =>
      refine List.pairwise_cons.mpr ⟨?_, ordered⟩
      intro entry member
      rw [LawfulEqOrd.eq_of_compare same]
      exact below entry member
    next greater =>
      refine List.pairwise_cons.mpr ⟨?_, ih ordered⟩
      intro entry member
      rcases mem_place member with same | member
      · exact same ▸ OrientedCmp.gt_iff_lt.mp greater
      · exact below entry member

def insert [TransOrd κ] [LawfulEqOrd κ] (table : Table κ ν) (key : κ) (value : ν) : Table κ ν :=
  ⟨place key value table.entries, place_ordered key value table.ordered⟩

def erase (table : Table κ ν) (key : κ) : Table κ ν :=
  ⟨table.entries.filter fun entry => compare key entry.1 != .eq, table.ordered.filter _⟩

/-- Change the value of a key, if it has one. -/
def modify [TransOrd κ] [LawfulEqOrd κ] (table : Table κ ν) (key : κ) (change : ν → ν) :
    Table κ ν :=
  match table.get? key with
  | some value => table.insert key (change value)
  | none => table

/-- Insert entries from left to right; the last of equal keys stays. -/
def insertAll [TransOrd κ] [LawfulEqOrd κ] (table : Table κ ν) (entries : List (κ × ν)) :
    Table κ ν :=
  entries.foldl (fun table entry => table.insert entry.1 entry.2) table

@[simp] theorem get?_empty (key : κ) : (empty : Table κ ν).get? key = none := rfl

theorem lookup_place [TransOrd κ] [LawfulEqOrd κ] [DecidableEq κ] (key other : κ) (value : ν)
    (entries : List (κ × ν)) :
    lookup other (place key value entries) =
      if other = key then some value else lookup other entries := by
  have apart (first second : κ) : compare first second = .eq ↔ first = second :=
    LawfulEqOrd.compare_eq_iff_eq
  induction entries with
  | nil => simp only [place, lookup, apart]
  | cons first rest ih =>
    unfold place
    split
    · simp only [lookup, apart]
    next same =>
      have same := (apart _ _).mp same
      simp only [lookup, apart, ← same]
      by_cases selected : other = key <;> simp only [selected, if_true, if_false]
    next greater =>
      simp only [lookup, apart, ih]
      by_cases selected : other = key
      · subst selected
        have distinct : ¬other = first.1 := by
          intro same
          rw [(apart _ _).mpr same] at greater
          cases greater
        simp only [distinct, if_true, if_false]
      · simp only [selected, if_false]

@[simp] theorem get?_insert [TransOrd κ] [LawfulEqOrd κ] [DecidableEq κ] (table : Table κ ν)
    (key other : κ) (value : ν) :
    (table.insert key value).get? other = if other = key then some value else table.get? other :=
  lookup_place key other value table.entries

@[simp] theorem get?_erase [TransOrd κ] [LawfulEqOrd κ] [DecidableEq κ] (table : Table κ ν)
    (key other : κ) :
    (table.erase key).get? other = if other = key then none else table.get? other := by
  have apart (first second : κ) : compare first second = .eq ↔ first = second :=
    LawfulEqOrd.compare_eq_iff_eq
  obtain ⟨entries, ordered⟩ := table
  simp only [get?, erase]
  induction entries with
  | nil => simp [lookup]
  | cons first rest ih =>
    have ih := ih (List.pairwise_cons.mp ordered).2
    by_cases same : key = first.1
    · rw [List.filter_cons_of_neg (by simp [(apart _ _).mpr same]), ih]
      by_cases selected : other = key
      · simp only [selected, if_true]
      · simp only [selected, lookup, apart, ← same, if_false]
    · rw [List.filter_cons_of_pos (by simp [apart, same])]
      simp only [lookup, apart, ih]
      by_cases selected : other = key
      · simp only [selected, same, if_true, if_false]
      · simp only [selected, if_false]

@[simp] theorem get?_modify [TransOrd κ] [LawfulEqOrd κ] [DecidableEq κ] (table : Table κ ν)
    (key other : κ) (change : ν → ν) :
    (table.modify key change).get? other =
      if other = key then (table.get? key).map change else table.get? other := by
  unfold modify
  split
  next value found => rw [get?_insert, found, Option.map_some]
  next absent =>
    split
    next same => rw [same, absent, Option.map_none]
    · rfl

/-- What is found after an entry is gone was there before. -/
theorem get?_of_erase [TransOrd κ] [LawfulEqOrd κ] [DecidableEq κ] {table : Table κ ν} {key other : κ}
    {value : ν} (found : (table.erase key).get? other = some value) :
    table.get? other = some value := by
  rw [get?_erase] at found
  split at found
  · cases found
  · exact found

theorem lookup_eq_none_of_lt [TransOrd κ] [LawfulEqOrd κ] {key : κ} {entries : List (κ × ν)}
    (below : ∀ entry ∈ entries, compare key entry.1 = .lt) : lookup key entries = none := by
  induction entries with
  | nil => rfl
  | cons first rest ih =>
    have less := below first List.mem_cons_self
    simp only [lookup, less]
    exact ih fun entry member => below entry (List.mem_cons_of_mem _ member)

/-- Maps that answer every look-up alike are equal. -/
theorem ext_get? [TransOrd κ] [LawfulEqOrd κ] {left right : Table κ ν}
    (same : ∀ key, left.get? key = right.get? key) : left = right := by
  obtain ⟨left, leftOrdered⟩ := left
  obtain ⟨right, rightOrdered⟩ := right
  simp only [get?] at same
  suffices equal : left = right by subst equal; rfl
  induction left generalizing right with
  | nil =>
    cases right with
    | nil => rfl
    | cons second _ => simpa [lookup] using same second.1
  | cons first left ih =>
    obtain ⟨leftBelow, leftOrdered⟩ := List.pairwise_cons.mp leftOrdered
    cases right with
    | nil => simpa [lookup] using same first.1
    | cons second right =>
      obtain ⟨rightBelow, rightOrdered⟩ := List.pairwise_cons.mp rightOrdered
      have heads : first.1 = second.1 := by
        cases relation : compare first.1 second.1 with
        | eq => exact LawfulEqOrd.eq_of_compare relation
        | lt =>
          have absent : lookup first.1 (second :: right) = none := by
            refine lookup_eq_none_of_lt fun entry member => ?_
            rcases List.mem_cons.mp member with same | member
            · exact same ▸ relation
            · exact TransCmp.lt_trans relation (rightBelow entry member)
          have present := same first.1
          rw [absent] at present
          simp [lookup] at present
        | gt =>
          have relation := OrientedCmp.gt_iff_lt.mp relation
          have absent : lookup second.1 (first :: left) = none := by
            refine lookup_eq_none_of_lt fun entry member => ?_
            rcases List.mem_cons.mp member with same | member
            · exact same ▸ relation
            · exact TransCmp.lt_trans relation (leftBelow entry member)
          have present := same second.1
          rw [absent] at present
          simp [lookup] at present
      have values : first.2 = second.2 := by
        have found := same first.1
        simpa [lookup, heads] using found
      have tails : left = right := by
        refine ih leftOrdered right rightOrdered fun key => ?_
        have found := same key
        by_cases selected : compare key first.1 = .eq
        · have selected := LawfulEqOrd.eq_of_compare selected
          subst selected
          rw [lookup_eq_none_of_lt leftBelow, lookup_eq_none_of_lt (heads ▸ rightBelow)]
        · simpa [lookup, selected, ← heads] using found
      rw [Prod.ext heads values, tails]

theorem place_of_greater [TransOrd κ] [LawfulEqOrd κ] {key : κ} {value : ν} {entries : List (κ × ν)}
    (below : ∀ entry ∈ entries, compare entry.1 key = .lt) :
    place key value entries = entries ++ [(key, value)] := by
  induction entries with
  | nil => rfl
  | cons first rest ih =>
    have greater : compare key first.1 = .gt :=
      OrientedCmp.gt_iff_lt.mpr (below first List.mem_cons_self)
    rw [place, greater, List.cons_append]
    exact congrArg (List.cons first) (ih fun entry member => below entry (List.mem_cons_of_mem _ member))

/-- Entries in order, all of them behind those of a map, are put behind these. -/
theorem entries_insertAll [TransOrd κ] [LawfulEqOrd κ] (table : Table κ ν) (entries : List (κ × ν))
    (ordered : (table.entries ++ entries).Pairwise fun first second =>
      compare first.1 second.1 = .lt) :
    (table.insertAll entries).entries = table.entries ++ entries := by
  induction entries generalizing table with
  | nil => exact (List.append_nil _).symm
  | cons first rest ih =>
    have placed : (table.insert first.1 first.2).entries = table.entries ++ [first] :=
      place_of_greater fun entry member =>
        (List.pairwise_append.mp ordered).2.2 entry member first List.mem_cons_self
    rw [insertAll, List.foldl_cons]
    refine (ih (table.insert first.1 first.2) ?_).trans ?_
    · rwa [placed, List.append_assoc]
    · rw [placed, List.append_assoc]
      rfl

/-- The entries of a map make it up again. -/
theorem insertAll_entries [TransOrd κ] [LawfulEqOrd κ] (table : Table κ ν) :
    empty.insertAll table.entries = table :=
  ext_get? fun key => congrArg (lookup key) (entries_insertAll empty table.entries table.ordered)

/-- What a map answers is what its entries say. -/
theorem mem_entries_iff [TransOrd κ] [LawfulEqOrd κ] {table : Table κ ν} {key : κ} {value : ν} :
    (key, value) ∈ table.entries ↔ table.get? key = some value := by
  have reflexive : compare key key = .eq := LawfulEqOrd.compare_eq_iff_eq.mpr rfl
  obtain ⟨entries, ordered⟩ := table
  simp only [get?]
  induction entries with
  | nil => simp [lookup]
  | cons first rest ih =>
    obtain ⟨below, ordered⟩ := List.pairwise_cons.mp ordered
    have ih := ih ordered
    by_cases selected : compare key first.1 = .eq
    · have same := LawfulEqOrd.eq_of_compare selected
      have absent : (key, value) ∉ rest := fun member => by
        have less := below (key, value) member
        rw [← same, reflexive] at less
        cases less
      simp only [lookup, selected, if_true, List.mem_cons, absent, or_false, Option.some.injEq]
      exact ⟨fun found => (congrArg Prod.snd found).symm, fun found => Prod.ext same found.symm⟩
    · have distinct : (key, value) ≠ first := fun same => by
        rw [← same] at selected
        exact selected reflexive
      simp only [lookup, selected, if_false, List.mem_cons, distinct, false_or, ih]

/-- A new value for a key that the map has takes the old one's place. -/
theorem size_insert_of_contains [TransOrd κ] [LawfulEqOrd κ] {table : Table κ ν} {key : κ}
    (value : ν) (found : table.contains key = true) :
    (table.insert key value).size = table.size := by
  obtain ⟨entries, ordered⟩ := table
  simp only [contains, get?] at found
  simp only [size, insert]
  induction entries with
  | nil => cases found
  | cons first rest ih =>
    obtain ⟨below, ordered⟩ := List.pairwise_cons.mp ordered
    unfold place
    split
    next less =>
      have absent : lookup key (first :: rest) = none :=
        lookup_eq_none_of_lt fun entry member => by
          rcases List.mem_cons.mp member with same | member
          · exact same ▸ less
          · exact TransCmp.lt_trans less (below entry member)
      rw [absent] at found
      cases found
    · rfl
    next greater =>
      simp only [lookup, greater] at found
      simp only [List.length_cons, ih ordered found]

theorem size_insert_of_absent [TransOrd κ] [LawfulEqOrd κ] {table : Table κ ν} {key : κ}
    (value : ν) (absent : table.get? key = none) :
    (table.insert key value).size = table.size + 1 := by
  obtain ⟨entries, ordered⟩ := table
  simp only [get?] at absent
  simp only [size, insert]
  induction entries with
  | nil => rfl
  | cons first rest ih =>
    obtain ⟨below, ordered⟩ := List.pairwise_cons.mp ordered
    unfold place
    split
    · rfl
    next same => simp [lookup, same] at absent
    next greater =>
      simp only [lookup, greater] at absent
      simp only [List.length_cons, ih ordered absent]

theorem size_erase_of_contains [TransOrd κ] [LawfulEqOrd κ] {table : Table κ ν} {key : κ}
    (found : table.contains key = true) : (table.erase key).size + 1 = table.size := by
  obtain ⟨entries, ordered⟩ := table
  simp only [contains, get?] at found
  simp only [size, erase]
  induction entries with
  | nil => cases found
  | cons first rest ih =>
    obtain ⟨below, ordered⟩ := List.pairwise_cons.mp ordered
    by_cases same : compare key first.1 = .eq
    · have kept : rest.filter (fun entry => compare key entry.1 != .eq) = rest :=
        List.filter_eq_self.mpr fun entry member => by
          rw [LawfulEqOrd.eq_of_compare same, below entry member]
          rfl
      rw [List.filter_cons_of_neg (by simp [same]), kept, List.length_cons]
    · simp only [lookup, same, if_false] at found
      rw [List.filter_cons_of_pos (by simpa using same), List.length_cons, ih ordered found,
        List.length_cons]

theorem erase_of_get?_eq_none [TransOrd κ] [LawfulEqOrd κ] [DecidableEq κ] {table : Table κ ν}
    {key : κ} (absent : table.get? key = none) : table.erase key = table :=
  ext_get? fun other => by
    rw [get?_erase]
    split
    next same => rw [same, absent]
    · rfl

theorem insert_of_get?_eq_some [TransOrd κ] [LawfulEqOrd κ] [DecidableEq κ] {table : Table κ ν}
    {key : κ} {value : ν} (found : table.get? key = some value) : table.insert key value = table :=
  ext_get? fun other => by
    rw [get?_insert]
    split
    next same => rw [same, found]
    · rfl

theorem erase_insert [TransOrd κ] [LawfulEqOrd κ] [DecidableEq κ] (table : Table κ ν) (key : κ)
    (value : ν) : (table.insert key value).erase key = table.erase key :=
  ext_get? fun other => by
    rw [get?_erase, get?_erase, get?_insert]
    split <;> rfl

theorem insert_erase [TransOrd κ] [LawfulEqOrd κ] [DecidableEq κ] (table : Table κ ν) (key : κ)
    (value : ν) : (table.erase key).insert key value = table.insert key value :=
  ext_get? fun other => by
    simp only [get?_insert, get?_erase]
    split <;> rfl

theorem erase_insert_of_ne [TransOrd κ] [LawfulEqOrd κ] [DecidableEq κ] (table : Table κ ν)
    {key other : κ} (value : ν) (apart : other ≠ key) :
    (table.insert key value).erase other = (table.erase other).insert key value :=
  ext_get? fun third => by
    simp only [get?_erase, get?_insert]
    split
    next same => rw [if_neg (same ▸ apart)]
    · rfl

/-- The last of two values for a key stays. -/
theorem insert_insert [TransOrd κ] [LawfulEqOrd κ] [DecidableEq κ] (table : Table κ ν) (key : κ)
    (first last : ν) : (table.insert key first).insert key last = table.insert key last :=
  ext_get? fun other => by
    simp only [get?_insert]
    split <;> rfl

theorem insert_comm [TransOrd κ] [LawfulEqOrd κ] [DecidableEq κ] (table : Table κ ν)
    {key other : κ} (value second : ν) (apart : other ≠ key) :
    (table.insert key value).insert other second = (table.insert other second).insert key value :=
  ext_get? fun third => by
    simp only [get?_insert]
    split
    next same => rw [if_neg (same ▸ apart)]
    · rfl

/-! Keys. -/

theorem mem_keys_iff [TransOrd κ] [LawfulEqOrd κ] {table : Table κ ν} {key : κ} :
    key ∈ table.keys ↔ table.contains key = true := by
  rw [contains, Option.isSome_iff_exists, keys, List.mem_map]
  constructor
  · rintro ⟨⟨key, value⟩, member, rfl⟩
    exact ⟨value, mem_entries_iff.mp member⟩
  · rintro ⟨value, found⟩
    exact ⟨(key, value), mem_entries_iff.mpr found, rfl⟩

theorem nodup_keys [TransOrd κ] [LawfulEqOrd κ] (table : Table κ ν) : table.keys.Nodup := by
  refine List.pairwise_map.mpr (table.ordered.imp fun {first second} less same => ?_)
  rw [same, LawfulEqOrd.compare_eq_iff_eq.mpr rfl] at less
  cases less

theorem mem_keys_insert [TransOrd κ] [LawfulEqOrd κ] [DecidableEq κ] {table : Table κ ν}
    {key other : κ} {value : ν} :
    other ∈ (table.insert key value).keys ↔ other = key ∨ other ∈ table.keys := by
  rw [mem_keys_iff, mem_keys_iff, contains, contains, get?_insert]
  split
  next same => simp [same]
  next distinct => simp [distinct]

theorem mem_keys_erase [TransOrd κ] [LawfulEqOrd κ] [DecidableEq κ] {table : Table κ ν}
    {key other : κ} : other ∈ (table.erase key).keys ↔ other ≠ key ∧ other ∈ table.keys := by
  rw [mem_keys_iff, mem_keys_iff, contains, contains, get?_erase]
  split
  next same => simp [same]
  next distinct => simp [distinct]

end Table

end CephMount
