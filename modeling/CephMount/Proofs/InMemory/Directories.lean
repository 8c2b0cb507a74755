import CephMount.Proofs.InMemory.Invariants
import CephMount.Proofs.Mount.Requests

/-! The directory table of a handle is a tree.

The table is flat: it holds whole paths. That every directory in it lies in another one, up to the
root, is kept by every request, since a directory is made only under one that is there and removed
only when none lies in it. The working directory need not be in the table, but it is in normal form.
-/

set_option autoImplicit false

namespace CephMount

namespace Path

theorem parent?_append (path : Path) (name : String) :
    parent? (path ++ [name]) = some path := by
  simp [parent?]

theorem parent?_eq_some_iff {path parent : Path} :
    path.parent? = some parent ↔ ∃ name, path = parent ++ [name] := by
  constructor
  · intro same
    rcases List.eq_nil_or_concat path with rfl | ⟨above, name, rfl⟩
    · cases same
    · rw [List.concat_eq_append, parent?_append] at same
      cases same
      exact ⟨name, List.concat_eq_append⟩
  · rintro ⟨name, rfl⟩
    exact parent?_append parent name

theorem parent?_eq_none_iff {path : Path} : path.parent? = none ↔ path = root := by
  simp [parent?, root]

/-! Texts without a NUL lead to paths whose text has none. -/

theorem mem_walk {path : Path} {text : List Char} {name : String} (member : name ∈ path.walk text) :
    name ∈ path ∨ name.toList ∈ text.splitOn '/' := by
  have follow (parts : List (List Char)) {path : Path}
      (member : name ∈ parts.foldl Path.follow path) : name ∈ path ∨ name.toList ∈ parts := by
    induction parts generalizing path with
    | nil => exact .inl member
    | cons part rest ih =>
      rcases ih member with stood | written
      · unfold Path.follow at stood
        split at stood
        · exact .inl stood
        split at stood
        · exact .inl (List.dropLast_subset path stood)
        · rcases List.mem_append.mp stood with stood | added
          · exact .inl stood
          · rw [List.mem_singleton.mp added, String.toList_ofList]
            exact .inr List.mem_cons_self
      · exact .inr (List.mem_cons_of_mem part written)
  exact follow _ member

theorem mem_of_mem_splitOn {text part : List Char} {value : Char} (written : part ∈ text.splitOn '/')
    (member : value ∈ part) : value ∈ text := by
  induction text generalizing part with
  | nil =>
    rw [List.splitOn_nil, List.mem_singleton] at written
    exact written ▸ member
  | cons first rest ih =>
    rw [List.splitOn_cons_eq_if_modifyHead] at written
    split at written
    · rcases List.mem_cons.mp written with rfl | written
      · cases member
      · exact List.mem_cons_of_mem first (ih written member)
    · cases parts : rest.splitOn '/' with
      | nil => simp [parts] at written
      | cons head tail =>
        rw [parts, List.modifyHead_cons] at written
        rcases List.mem_cons.mp written with rfl | written
        · rcases List.mem_cons.mp member with rfl | member
          · exact List.mem_cons_self
          · exact List.mem_cons_of_mem first (ih (parts ▸ List.mem_cons_self) member)
        · exact List.mem_cons_of_mem first (ih (parts ▸ List.mem_cons_of_mem head written) member)

theorem mem_text {path : Path} {value : Char} (member : value ∈ path.text.toList) :
    value = '/' ∨ ∃ name ∈ path, value ∈ name.toList := by
  have between (parts : List (List Char)) (member : value ∈ ['/'].intercalate parts) :
      value = '/' ∨ ∃ part ∈ parts, value ∈ part := by
    induction parts with
    | nil => cases member
    | cons part rest ih =>
      cases rest with
      | nil => exact .inr ⟨part, List.mem_cons_self, by simpa using member⟩
      | cons second rest =>
        rw [List.intercalate_cons_cons, List.mem_append, List.mem_append] at member
        rcases member with (member | slash) | member
        · exact .inr ⟨part, List.mem_cons_self, member⟩
        · exact .inl (List.mem_singleton.mp slash)
        · exact (ih member).imp id fun ⟨other, within, member⟩ =>
            ⟨other, List.mem_cons_of_mem part within, member⟩
  rw [text, String.toList_ofList] at member
  rcases List.mem_cons.mp member with slash | member
  · exact .inl slash
  · rcases between _ member with slash | ⟨part, within, member⟩
    · exact .inl slash
    · obtain ⟨name, named, rfl⟩ := List.mem_map.mp within
      exact .inr ⟨name, named, member⟩

theorem nul_not_mem_walk {path : Path} {text : List Char}
    (clean : ∀ name ∈ path, '\x00' ∉ name.toList) (unbroken : '\x00' ∉ text) :
    ∀ name ∈ path.walk text, '\x00' ∉ name.toList := by
  intro name member nul
  rcases mem_walk member with stood | written
  · exact clean name stood nul
  · exact unbroken (mem_of_mem_splitOn written nul)

/-- The text of what a path is resolved to can cross the boundary. -/
theorem resolve_spells (workingDir text : Terminated) :
    ∃ string, Terminated.ofText (resolve workingDir.text text.text).text = .ok string ∧
      string.Spells (resolve workingDir.text text.text).text := by
  have unbroken (string : Terminated) : '\x00' ∉ string.text.toList :=
    Utf8.nul_not_mem_lossy string.unbroken
  have clean : ∀ name ∈ resolve workingDir.text text.text, '\x00' ∉ name.toList := by
    have rooted {text : List Char} (unbroken : '\x00' ∉ text) :
        ∀ name ∈ root.walk text, '\x00' ∉ name.toList :=
      nul_not_mem_walk (fun _ member => nomatch member) unbroken
    unfold resolve
    split
    · exact rooted (unbroken text)
    · exact nul_not_mem_walk (rooted (unbroken workingDir)) (unbroken text)
  refine Terminated.ofText_of_unbroken fun nul => ?_
  rcases mem_text nul with slash | ⟨name, member, nul⟩
  · cases slash
  · exact clean name member nul

end Path

namespace InMemory

namespace Record

/-- The directories of a handle make up a tree: the root is there, and every other directory lies in
one that is there. Paths are in normal form, and the working directory is the text of such a path. -/
structure IsTree (record : Record) : Prop where
  root : Path.root ∈ record.directories.keys
  normal : ∀ path ∈ record.directories.keys, path.IsNormal
  parents : ∀ path ∈ record.directories.keys, path ≠ Path.root →
    ∃ parent, path.parent? = some parent ∧ parent ∈ record.directories.keys
  workingDir : ∃ path : Path, path.IsNormal ∧ record.workingDir.Spells path.text

/-- What a record keeps of its files is all that its tree is about. -/
theorem IsTree.congr {record other : Record} (tree : record.IsTree)
    (directories : other.directories = record.directories)
    (workingDir : other.workingDir = record.workingDir) : other.IsTree := by
  obtain ⟨root, normal, parents, stood⟩ := tree
  rw [← directories] at root normal parents
  exact ⟨root, normal, parents, workingDir ▸ stood⟩

theorem mem_keys_new (clientId : Option String) (cluster : Option Nat) (path : Path) :
    path ∈ (new clientId cluster).directories.keys ↔ path = Path.root :=
  List.mem_singleton

theorem new_isTree (clientId : Option String) (cluster : Option Nat) : (new clientId cluster).IsTree where
  root := (mem_keys_new clientId cluster _).mpr rfl
  normal path member := (mem_keys_new clientId cluster path).mp member ▸ Path.isNormal_root
  parents path member other := absurd ((mem_keys_new clientId cluster path).mp member) other
  workingDir := ⟨Path.root, Path.isNormal_root, Terminated.upToNul_of_not_mem (by decide)⟩

namespace IsTree

variable {record after : Record} {path : Path}

theorem enter (tree : record.IsTree) (entered : record.enter path = .ok after) : after.IsTree := by
  unfold Record.enter at entered
  split at entered
  · cases entered
  next present =>
    split at entered
    next text crossed =>
      cases entered
      have member : path ∈ record.directories.keys := by
        rw [Table.mem_keys_iff]
        simpa using present
      exact ⟨tree.root, tree.normal, tree.parents, path, tree.normal path member,
        Terminated.ofText_eq_ok_iff.mp crossed⟩
    · cases entered

theorem makeDir (tree : record.IsTree) (normal : path.IsNormal) {mode : UInt32}
    (made : record.makeDir path mode = .ok after) : after.IsTree := by
  unfold Record.makeDir at made
  split at made
  · cases made
  split at made
  · cases made
  next parent above =>
    split at made
    · cases made
    next present =>
      cases made
      have member : parent ∈ record.directories.keys := by
        rw [Table.mem_keys_iff]
        simpa using present
      constructor
      case root => exact Table.mem_keys_insert.mpr (.inr tree.root)
      case normal =>
        intro other there
        rcases Table.mem_keys_insert.mp there with rfl | there
        · exact normal
        · exact tree.normal other there
      case parents =>
        intro other there rooted
        rcases Table.mem_keys_insert.mp there with rfl | there
        · exact ⟨parent, above, Table.mem_keys_insert.mpr (.inr member)⟩
        · obtain ⟨holder, above, member⟩ := tree.parents other there rooted
          exact ⟨holder, above, Table.mem_keys_insert.mpr (.inr member)⟩
      case workingDir => exact tree.workingDir

/-- Only a directory that holds no other is removed, so no other loses the one it lies in. -/
theorem removeDir (tree : record.IsTree) (removed : record.removeDir path = .ok after) :
    after.IsTree := by
  unfold Record.removeDir at removed
  split at removed
  · cases removed
  next below =>
    split at removed
    · cases removed
    split at removed
    · cases removed
    next childless =>
      cases removed
      constructor
      case root => exact Table.mem_keys_erase.mpr ⟨Ne.symm below, tree.root⟩
      case normal => exact fun other there => tree.normal other (Table.mem_keys_erase.mp there).2
      case parents =>
        intro other there rooted
        have there := (Table.mem_keys_erase.mp there).2
        obtain ⟨parent, above, member⟩ := tree.parents other there rooted
        -- Were the parent the directory that goes, that would not have been empty.
        have stays : parent ≠ path := by
          intro same
          apply childless
          rw [hasChildren, List.any_eq_true]
          exact ⟨other, there, by rw [above, same, beq_self_eq_true]⟩
        exact ⟨parent, above, Table.mem_keys_erase.mpr ⟨stays, member⟩⟩
      case workingDir => exact tree.workingDir

theorem setAttributes (tree : record.IsTree) {change : Attributes → Attributes}
    (set : record.setAttributes path change = .ok after) : after.IsTree := by
  unfold Record.setAttributes at set
  split at set
  · cases set
  next attributes found =>
    cases set
    have member : path ∈ record.directories.keys := by
      rw [Table.mem_keys_iff, Table.contains, found]
      rfl
    have same (other : Path) : other ∈ (record.directories.insert path (change attributes)).keys ↔
        other ∈ record.directories.keys := by
      rw [Table.mem_keys_insert, or_iff_right_iff_imp]
      rintro rfl
      exact member
    constructor
    case root => exact (same _).mpr tree.root
    case normal => exact fun other there => tree.normal other ((same other).mp there)
    case parents =>
      intro other there rooted
      obtain ⟨parent, above, member⟩ := tree.parents other ((same other).mp there) rooted
      exact ⟨parent, above, (same parent).mpr member⟩
    case workingDir => exact tree.workingDir

end IsTree

theorem isTree_lasting : Lasting IsTree where
  new := new_isTree
  flag record mounted tree := tree.congr rfl rfl
  serve record after surroundings request served tree := by
    -- What is refused leaves nothing, and only requests on paths touch the files.
    have normal (path : Terminated) : (record.resolve path.text).IsNormal :=
      Path.resolve_isNormal _ _
    cases request with
    | readConfig list =>
      rw [of_readConfig served]
      exact tree
    | parseEnv name | setOption key value =>
      cases served
      exact tree.congr rfl rfl
    | mount root =>
      simp only [serve, mount] at served
      split at served
      · cases served
      · cases served
        exact tree.congr rfl rfl
    | unmount =>
      simp only [serve, unmount] at served
      split at served
      · cases served
        exact tree.congr rfl rfl
      · cases served
    | release =>
      simp only [serve] at served
      split at served
      · cases served
      · cases served
        exact tree
    | isMounted =>
      cases served
      exact tree
    | syncFs =>
      cases of_whenMounted served
      exact tree.congr rfl rfl
    | chdir path => exact tree.enter (of_whenMounted served)
    | mkdir path mode => exact tree.makeDir (normal path) (of_whenMounted served)
    | rmdir path => exact tree.removeDir (of_whenMounted served)
    | chmod path mode | chown path uid gid => exact tree.setAttributes (of_whenMounted served)

end Record

end InMemory

end CephMount
