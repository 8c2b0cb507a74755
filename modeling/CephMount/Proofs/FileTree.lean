import CephMount.InMemory.Record
import CephMount.Proofs.Mount.Requests

/-! A file system that is held as a tree: every directory holds the ones in it under their names.

A path is folded by what is written, against the working directory, and then walked name by name from
the root. A change is made where the walk ends, and what it leaves alone is said of the attributes that
walks come upon.
-/

set_option autoImplicit false

namespace CephMount

open InMemory

/-- A directory, and the directories in it under their names. -/
inductive FileTree where
  | node (attributes : Attributes) (children : List (String × FileTree))

namespace FileTree

def attributes : FileTree → Attributes
  | node attributes _ => attributes

def children : FileTree → List (String × FileTree)
  | node _ children => children

def child? (tree : FileTree) (name : String) : Option FileTree := tree.children.lookup name

/-- Walk down from a directory, name by name. -/
def reach? : FileTree → Path → Option FileTree
  | tree, [] => some tree
  | tree, name :: rest => (tree.child? name).bind fun child => child.reach? rest

/-- The attributes of the directory that a walk ends at. -/
def attributes? (tree : FileTree) (path : Path) : Option Attributes :=
  (tree.reach? path).map attributes

def changeChild (name : String) (change : FileTree → FileTree) (tree : FileTree) : FileTree :=
  node tree.attributes
    (tree.children.map fun (other, child) => (other, if other = name then change child else child))

def addChild (name : String) (child : FileTree) (tree : FileTree) : FileTree :=
  node tree.attributes ((name, child) :: tree.children)

def removeChild (name : String) (tree : FileTree) : FileTree :=
  node tree.attributes (tree.children.filter fun (other, _) => other != name)

def changeAttributes (change : Attributes → Attributes) (tree : FileTree) : FileTree :=
  node (change tree.attributes) tree.children

/-- Change the directory that a path leads to. -/
def modify (change : FileTree → FileTree) : Path → FileTree → FileTree
  | [], tree => change tree
  | name :: rest, tree => tree.changeChild name (modify change rest)

end FileTree

/-- A file system as one mount has it. -/
structure FileSystem where
  mounted : Bool
  workingDir : Path
  tree : FileTree

/-- What is done with a file system through a mount. -/
inductive FileOperation where
  | mount
  | unmount
  | currentDir
  | path (operation : PathOperation)
  deriving DecidableEq, Repr

def FileOperation.operation : FileOperation → Operation
  | mount => .mount
  | unmount => .unmount
  | currentDir => .currentDir
  | path operation => .path operation

/-- No path of the operation holds a NUL. -/
def FileOperation.Unbroken : FileOperation → Prop
  | mount | unmount | currentDir => True
  | path operation => '\x00' ∉ operation.target.toList

namespace FileSystem

/-- Not mounted, with nothing but the root. -/
def initial : FileSystem := ⟨false, Path.root, .node (.ofMode 0o755) []⟩

/-- Go on from a directory by names: nothing and a dot stay there, two dots go up, and the root is
above itself. -/
def descend : Path → List String → Path
  | path, [] => path
  | path, name :: rest =>
    if name = "" ∨ name = "." then descend path rest
    else if name = ".." then descend path.dropLast rest
    else descend (path ++ [name]) rest

/-- The directory that a text names. -/
def resolve (files : FileSystem) (text : String) : Path :=
  let start := if text.toList.head? = some '/' then Path.root else files.workingDir
  descend start ((text.toList.splitOn '/').map String.ofList)

def changeAt (files : FileSystem) (text : String) (change : Attributes → Attributes) :
    Except Errno FileSystem :=
  let path := files.resolve text
  match files.tree.reach? path with
  | none => .error Errno.noEntry
  | some _ => .ok { files with tree := files.tree.modify (FileTree.changeAttributes change) path }

def atPath (files : FileSystem) : PathOperation → Except Errno FileSystem
  | .enter text =>
    let path := files.resolve text
    match files.tree.reach? path with
    | none => .error Errno.noEntry
    | some _ => .ok { files with workingDir := path }
  | .make text mode =>
    let path := files.resolve text
    match files.tree.reach? path, files.tree.reach? path.dropLast with
    | some _, _ => .error Errno.alreadyThere
    | none, none => .error Errno.noEntry
    | none, some _ =>
      let made := FileTree.addChild (path.getLastD "") (.node (.ofMode mode) [])
      .ok { files with tree := files.tree.modify made path.dropLast }
  | .remove text =>
    let path := files.resolve text
    if path = Path.root then .error Errno.busy
    else match files.tree.reach? path with
    | none => .error Errno.noEntry
    | some (.node _ (_ :: _)) => .error Errno.notEmpty
    | some (.node _ []) =>
      let removed := FileTree.removeChild (path.getLastD "")
      .ok { files with tree := files.tree.modify removed path.dropLast }
  | .setMode text mode => files.changeAt text fun attributes =>
      { attributes with mode := mode &&& modeMask }
  | .setOwner text uid gid => files.changeAt text fun attributes => { attributes with uid, gid }

/-- The file system after an operation, or why it is refused. -/
def perform (files : FileSystem) : FileOperation → Except Errno FileSystem
  | .mount =>
    if files.mounted then .error Errno.alreadyConnected else .ok { files with mounted := true }
  | .unmount =>
    if files.mounted then .ok { files with mounted := false } else .error Errno.notConnected
  | .currentDir => .ok files
  | .path operation => if files.mounted then files.atPath operation else .error Errno.notConnected

def code (files : FileSystem) (operation : FileOperation) : Int32 :=
  match files.perform operation with
  | .ok _ => 0
  | .error errno => errno.code

/-- What an operation gives its caller: the text of the working directory, or what the code says. -/
def answer (files : FileSystem) (operation : FileOperation) : Outcome Answer :=
  match operation with
  | .currentDir => .ok (.text files.workingDir.text)
  | _ => (outcomeOf (files.code operation)).map fun () => .nothing

/-- A refused operation changes nothing. -/
def after (files : FileSystem) (operation : FileOperation) : FileSystem :=
  match files.perform operation with
  | .ok after => after
  | .error _ => files

def answers (files : FileSystem) : List FileOperation → List (Outcome Answer)
  | [] => []
  | operation :: rest => files.answer operation :: (files.after operation).answers rest

def afterAll (files : FileSystem) (operations : List FileOperation) : FileSystem :=
  operations.foldl after files

end FileSystem

/-! What changes leave of the attributes. -/

namespace FileTree

@[simp] theorem reach?_nil (tree : FileTree) : tree.reach? [] = some tree := by
  unfold reach?
  rfl

@[simp] theorem reach?_cons (tree : FileTree) (name : String) (rest : Path) :
    tree.reach? (name :: rest) = (tree.child? name).bind (reach? · rest) := by
  rw [reach?]

@[simp] theorem attributes?_nil (tree : FileTree) : tree.attributes? [] = some tree.attributes := by
  simp [attributes?]

@[simp] theorem attributes?_cons (tree : FileTree) (name : String) (rest : Path) :
    tree.attributes? (name :: rest) = (tree.child? name).bind (attributes? · rest) := by
  cases found : tree.child? name <;> simp [attributes?, found]

theorem reach?_append (tree : FileTree) (path rest : Path) :
    tree.reach? (path ++ rest) = (tree.reach? path).bind (reach? · rest) := by
  induction path generalizing tree with
  | nil => simp
  | cons name path ih => cases found : tree.child? name <;> simp [found, ih]

theorem attributes?_append (tree : FileTree) (path rest : Path) :
    tree.attributes? (path ++ rest) = (tree.reach? path).bind (attributes? · rest) := by
  induction path generalizing tree with
  | nil => simp
  | cons name path ih => cases found : tree.child? name <;> simp [found, ih]

@[simp] theorem child?_node_nil (attributes : Attributes) (name : String) :
    (node attributes []).child? name = none := rfl

theorem lookup_cons (name other : String) (child : FileTree) (rest : List (String × FileTree)) :
    ((name, child) :: rest).lookup other = if other = name then some child else rest.lookup other := by
  rw [List.lookup_cons]
  by_cases same : other = name
  · simp [same]
  · rw [beq_false_of_ne same, if_neg same]

@[simp] theorem child?_changeChild (name other : String) (change : FileTree → FileTree)
    (tree : FileTree) : (changeChild name change tree).child? other =
      if other = name then (tree.child? name).map change else tree.child? other := by
  obtain ⟨attributes, children⟩ := tree
  simp only [changeChild, child?, FileTree.children]
  induction children with
  | nil => simp
  | cons first rest ih =>
    obtain ⟨own, child⟩ := first
    simp only [List.map_cons, lookup_cons, ih]
    grind

@[simp] theorem child?_addChild (name other : String) (child tree : FileTree) :
    (addChild name child tree).child? other =
      if other = name then some child else tree.child? other :=
  lookup_cons name other child tree.children

@[simp] theorem child?_removeChild (name other : String) (tree : FileTree) :
    (removeChild name tree).child? other = if other = name then none else tree.child? other := by
  obtain ⟨attributes, children⟩ := tree
  simp only [removeChild, child?, FileTree.children]
  induction children with
  | nil => simp
  | cons first rest ih =>
    obtain ⟨own, child⟩ := first
    by_cases named : own = name
    · rw [List.filter_cons_of_neg (by simp [named]), ih, lookup_cons]
      grind
    · rw [List.filter_cons_of_pos (by simp [named]), lookup_cons, ih, lookup_cons]
      grind

/-- A directory has a child exactly if it is not empty. -/
theorem exists_child?_iff (tree : FileTree) :
    (∃ name child, tree.child? name = some child) ↔ tree.children ≠ [] := by
  obtain ⟨attributes, children⟩ := tree
  cases children with
  | nil => simp [child?, FileTree.children]
  | cons first rest =>
    obtain ⟨name, child⟩ := first
    refine iff_of_true ⟨name, child, ?_⟩ (List.cons_ne_nil _ _)
    simp [child?, FileTree.children]

variable {change : FileTree → FileTree}

/-- From the end of its path on, a change is what it is there. -/
theorem attributes?_modify_append (tree : FileTree) (path rest : Path) :
    (tree.modify change path).attributes? (path ++ rest) =
      (tree.reach? path).bind fun node => (change node).attributes? rest := by
  induction path generalizing tree with
  | nil => simp [modify]
  | cons name path ih => cases found : tree.child? name <;> simp [modify, found, ih]

/-- What does not lie behind its path a change leaves alone. -/
theorem attributes?_modify_of_outside (tree : FileTree) {path other : Path}
    (apart : ¬path <+: other) : (tree.modify change path).attributes? other = tree.attributes? other := by
  induction path generalizing tree other with
  | nil => exact absurd (List.nil_prefix) apart
  | cons name path ih =>
    cases other with
    | nil => rw [attributes?_nil, attributes?_nil]; rfl
    | cons next more =>
      rw [modify, attributes?_cons, attributes?_cons, child?_changeChild]
      split
      next same =>
        subst same
        have apart : ¬path <+: more := fun below => apart (List.cons_prefix_cons.mpr ⟨rfl, below⟩)
        cases found : tree.child? next <;> simp [ih _ apart]
      · rfl

variable {tree node : FileTree} {parent : Path} {name : String}

/-- A new directory without others in it is the only thing that is added. -/
theorem attributes?_addChild (above : tree.reach? parent = some node)
    (absent : tree.reach? (parent ++ [name]) = none) (attributes : Attributes) (other : Path) :
    (tree.modify (addChild name (.node attributes [])) parent).attributes? other =
      if other = parent ++ [name] then some attributes else tree.attributes? other := by
  by_cases below : parent <+: other
  · obtain ⟨rest, rfl⟩ := below
    rw [attributes?_modify_append, attributes?_append, above, Option.bind_some, Option.bind_some]
    cases rest with
    | nil => simp [addChild, FileTree.attributes]
    | cons next more =>
      -- Behind the new directory there is nothing, and before there was nothing either.
      have childless : node.child? name = none := by simpa [reach?_append, above] using absent
      rw [attributes?_cons, attributes?_cons, child?_addChild]
      by_cases same : next = name
      · subst same
        cases more <;> simp [childless, FileTree.attributes]
      · simp [same]
  · rw [attributes?_modify_of_outside tree below, if_neg]
    rintro rfl
    exact below (List.prefix_append parent [name])

/-- A directory without others in it is the only thing that goes. -/
theorem attributes?_removeChild {attributes : Attributes}
    (reached : tree.reach? (parent ++ [name]) = some (.node attributes [])) (other : Path) :
    (tree.modify (removeChild name) parent).attributes? other =
      if other = parent ++ [name] then none else tree.attributes? other := by
  by_cases below : parent <+: other
  · obtain ⟨rest, rfl⟩ := below
    rw [attributes?_modify_append, attributes?_append]
    rw [reach?_append] at reached
    obtain ⟨node, above, found⟩ := Option.bind_eq_some_iff.mp reached
    rw [above, Option.bind_some, Option.bind_some]
    cases rest with
    | nil => simp [removeChild, FileTree.attributes]
    | cons next more =>
      rw [attributes?_cons, attributes?_cons, child?_removeChild]
      by_cases same : next = name
      · subst same
        -- The directory that goes was empty, so nothing behind it goes along.
        have child : node.child? next = some (.node attributes []) := by simpa using found
        cases more <;> simp [child]
      · simp [same]
  · rw [attributes?_modify_of_outside tree below, if_neg]
    rintro rfl
    exact below (List.prefix_append parent [name])

theorem attributes?_changeAttributes {path : Path} (reached : tree.reach? path = some node)
    (change : Attributes → Attributes) (other : Path) :
    (tree.modify (changeAttributes change) path).attributes? other =
      if other = path then some (change node.attributes) else tree.attributes? other := by
  by_cases below : path <+: other
  · obtain ⟨rest, rfl⟩ := below
    rw [attributes?_modify_append, attributes?_append, reached, Option.bind_some, Option.bind_some]
    cases rest with
    | nil => simp [changeAttributes, FileTree.attributes]
    | cons next more => simp [changeAttributes, child?, children]
  · rw [attributes?_modify_of_outside tree below, if_neg]
    rintro rfl
    exact below List.prefix_rfl

end FileTree

end CephMount
