/-! Paths in a tree of directories, and the text that names them.

A text is taken against a working directory, unless it begins with a slash. Dots are folded by what
is written, whether or not the directories exist, and going up from the root stays there. Whatever the
text, the path that it names is in normal form, and the text of such a path leads back to it.
-/

set_option autoImplicit false

namespace CephMount

/-- The names that lead from the root to a directory. -/
abbrev Path := List String

namespace Path

def root : Path := []

/-- The directory that holds this one; the root has none. -/
def parent? (path : Path) : Option Path := if path.isEmpty then none else some path.dropLast

/-- Follow what is written between two slashes. -/
def follow (path : Path) (part : List Char) : Path :=
  if part = [] ∨ part = ['.'] then path
  else if part = ['.', '.'] then path.dropLast
  else path ++ [String.ofList part]

/-- Follow a whole text from a directory. -/
def walk (path : Path) (text : List Char) : Path := (text.splitOn '/').foldl follow path

def isAbsolute (text : List Char) : Bool := text.head? == some '/'

/-- The directory that a text names, where the working directory is given as text too. -/
def resolve (workingDir text : String) : Path :=
  if isAbsolute text.toList then root.walk text.toList
  else (root.walk workingDir.toList).walk text.toList

/-- The text of a path begins with a slash and ends with one only for the root. -/
def text (path : Path) : String :=
  String.ofList ('/' :: ['/'].intercalate (path.map String.toList))

/-! Normal form: what `follow` never drops, folds or parts. -/

/-- A name that can stand for a directory of its own. -/
def IsName (name : String) : Prop :=
  '/' ∉ name.toList ∧ name.toList ≠ [] ∧ name.toList ≠ ['.'] ∧ name.toList ≠ ['.', '.']

def IsNormal (path : Path) : Prop := ∀ name ∈ path, IsName name

theorem isNormal_root : root.IsNormal := fun _ member => nomatch member

theorem IsNormal.dropLast {path : Path} (normal : path.IsNormal) : IsNormal path.dropLast :=
  fun name member => normal name (List.dropLast_subset path member)

theorem IsNormal.follow {path : Path} {part : List Char} (normal : path.IsNormal)
    (unparted : '/' ∉ part) : (path.follow part).IsNormal := by
  unfold Path.follow
  split
  · exact normal
  next kept =>
    split
    · exact normal.dropLast
    next kept' =>
      intro name member
      rcases List.mem_append.mp member with member | member
      · exact normal name member
      · have same := List.mem_singleton.mp member
        subst same
        simp only [not_or] at kept
        exact ⟨by simpa using unparted, by simpa using kept.1, by simpa using kept.2,
          by simpa using kept'⟩

theorem not_mem_of_mem_splitOn {text part : List Char} (member : part ∈ text.splitOn '/') :
    '/' ∉ part := by
  induction text generalizing part with
  | nil =>
    rw [List.splitOn_nil, List.mem_singleton] at member
    simp [member]
  | cons first rest ih =>
    rw [List.splitOn_cons_eq_if_modifyHead] at member
    split at member
    · rcases List.mem_cons.mp member with same | member
      · simp [same]
      · exact ih member
    next distinct =>
      have distinct : '/' ≠ first := fun same => distinct (by simp [same.symm])
      cases parts : rest.splitOn '/' with
      | nil => simp [parts] at member
      | cons head tail =>
        rw [parts, List.modifyHead_cons] at member
        rcases List.mem_cons.mp member with same | member
        · rw [same, List.mem_cons, not_or]
          exact ⟨distinct, ih (parts ▸ List.mem_cons_self)⟩
        · exact ih (parts ▸ List.mem_cons_of_mem _ member)

theorem IsNormal.walk {path : Path} (normal : path.IsNormal) (text : List Char) :
    (path.walk text).IsNormal := by
  have follow (parts : List (List Char)) (unparted : ∀ part ∈ parts, '/' ∉ part)
      {path : Path} (normal : path.IsNormal) : IsNormal (parts.foldl Path.follow path) := by
    induction parts generalizing path with
    | nil => exact normal
    | cons part rest ih =>
      exact ih (fun part member => unparted part (List.mem_cons_of_mem _ member))
        (normal.follow (unparted part List.mem_cons_self))
  exact follow _ (fun _ => not_mem_of_mem_splitOn) normal

theorem resolve_isNormal (workingDir text : String) : (resolve workingDir text).IsNormal := by
  unfold resolve
  split
  · exact isNormal_root.walk _
  · exact (isNormal_root.walk _).walk _

/-- Following the parts of a normal path adds them. -/
theorem foldl_follow {names : Path} (normal : names.IsNormal) (path : Path) :
    (names.map String.toList).foldl follow path = path ++ names := by
  induction names generalizing path with
  | nil => simp
  | cons name rest ih =>
    obtain ⟨_, present, notDot, notDots⟩ := normal name List.mem_cons_self
    have added : path.follow name.toList = path ++ [name] := by
      simp [follow, present, notDot, notDots]
    rw [List.map_cons, List.foldl_cons, added, ih fun name member =>
      normal name (List.mem_cons_of_mem _ member)]
    simp

/-- A normal path is found again by its text. -/
theorem walk_text {path : Path} (normal : path.IsNormal) : root.walk path.text.toList = path := by
  have parts : path.text.toList = [] ++ '/' :: ['/'].intercalate (path.map String.toList) := by
    simp [text]
  rw [walk, parts, List.splitOn_append_cons_self, List.splitOn_nil, List.singleton_append,
    List.foldl_cons]
  cases path with
  | nil => rfl
  | cons name rest =>
    rw [List.splitOn_intercalate _ _ (by simp)]
    · exact foldl_follow normal root
    · intro part member
      obtain ⟨name, member, same⟩ := List.mem_map.mp member
      exact same ▸ (normal name member).1

end Path

end CephMount
