import CephMount.Proofs.InMemory.Histories
import CephMount.Proofs.InMemory.Directories

/-! Modes and owners of directories, told from what was changed.

A directory is given a mode when it is made and whenever its mode is set, and an owner whenever that is
set; what is made belongs to the superuser again. The last change that gives one counts. Of the root,
which nobody makes, the mode is told from the start.
-/

set_option autoImplicit false

namespace CephMount

open InMemory

/-- What was changed of a directory's mode or owner. -/
inductive Change where
  | made (path : Path) (mode : UInt32)
  | moded (path : Path) (mode : UInt32)
  | owned (path : Path) (uid gid : UInt32)
  deriving DecidableEq, Repr

namespace Change

/-- The mode that the directory at the path is given. -/
def mode? (path : Path) : Change → Option UInt32
  | made other mode | moded other mode => if other = path then some (mode &&& modeMask) else none
  | owned _ _ _ => none

/-- The owner and the group that the directory at the path is given. -/
def owner? (path : Path) : Change → Option (UInt32 × UInt32)
  | made other _ => if other = path then some (0, 0) else none
  | moded _ _ => none
  | owned other uid gid => if other = path then some (uid, gid) else none

@[simp] theorem mode?_made (path : Path) (mode : UInt32) :
    mode? path (made path mode) = some (mode &&& modeMask) := if_pos rfl

@[simp] theorem mode?_moded (path : Path) (mode : UInt32) :
    mode? path (moded path mode) = some (mode &&& modeMask) := if_pos rfl

@[simp] theorem owner?_made (path : Path) (mode : UInt32) :
    owner? path (made path mode) = some (0, 0) := if_pos rfl

@[simp] theorem owner?_owned (path : Path) (uid gid : UInt32) :
    owner? path (owned path uid gid) = some (uid, gid) := if_pos rfl

/-- The directory that was changed. -/
def target : Change → Path
  | made path _ | moded path _ | owned path _ _ => path

/-- Other directories are given nothing. -/
theorem elsewhere {change : Change} {path : Path} (other : path ≠ change.target) :
    change.mode? path = none ∧ change.owner? path = none := by
  have apart : change.target ≠ path := Ne.symm other
  cases change with
  | made own mode => exact ⟨if_neg apart, if_neg apart⟩
  | moded own mode => exact ⟨if_neg apart, rfl⟩
  | owned own uid gid => exact ⟨rfl, if_neg apart⟩

variable {α : Type}

/-- What was given last. -/
def latest (given : Change → Option α) (changes : List Change) : Option α :=
  changes.reverse.findSome? given

theorem latest_append (given : Change → Option α) (early late : List Change) :
    latest given (early ++ late) = (latest given late).or (latest given early) := by
  rw [latest, List.reverse_append, List.findSome?_append]
  rfl

theorem latest_singleton (given : Change → Option α) (change : Change) :
    latest given [change] = given change := by
  rw [latest, List.reverse_singleton, List.findSome?_singleton]

theorem exists_of_latest {given : Change → Option α} {changes : List Change} {value : α}
    (last : latest given changes = some value) : ∃ change ∈ changes, given change = some value := by
  obtain ⟨change, member, gave⟩ := List.exists_of_findSome?_eq_some last
  exact ⟨change, List.mem_reverse.mp member, gave⟩

end Change

/-- What an operation on a path changes where it is granted, given where a text leads. -/
def PathOperation.change? : PathOperation → (String → Path) → Option Change
  | make path mode, resolve => some (.made (resolve path) mode)
  | setMode path mode, resolve => some (.moded (resolve path) mode)
  | setOwner path uid gid, resolve => some (.owned (resolve path) uid gid)
  | enter _, _ | remove _, _ => none

/-- Other operations change no attributes. -/
def Operation.change? : Operation → (String → Path) → Option Change
  | path operation => operation.change?
  | _ => fun _ => none

/-- What a request changes where it is granted, given where a text leads. -/
def Request.change? : Request → (String → Path) → Option Change
  | .mkdir path mode, resolve => some (.made (resolve path.text) mode)
  | .chmod path mode, resolve => some (.moded (resolve path.text) mode)
  | .chown path uid gid, resolve => some (.owned (resolve path.text) uid.toUInt32 gid.toUInt32)
  | _, _ => none

/-- An operation changes what its request changes: each number of an owner comes back as it was given,
though it crosses as a signed one. -/
theorem Operation.Asks.change?_eq {operation : Operation} {request : Request}
    (asks : operation.Asks request) : request.change? = operation.change? := by
  cases asks with
  | configure asks => cases asks <;> rfl
  | @path operation _ asks =>
    obtain ⟨path, spells, rfl⟩ := asks
    have text := spells.text_eq
    funext resolve
    cases operation with
    | enter own | remove own => rfl
    | make own mode | setMode own mode | setOwner own uid gid =>
      simp only [PathOperation.requestOn, Request.change?, Operation.change?, PathOperation.change?, text,
        UInt32.toUInt32_toInt32, PathOperation.target]
  | mount | unmount | sync => rfl

namespace InMemory

/-- The attributes of the directory at the path are what the changes gave it last. -/
structure Attributes.ToldBy (path : Path) (changes : List Change) (attributes : Attributes) : Prop where
  mode : some attributes.mode =
    (Change.latest (Change.mode? path) changes).or (if path = Path.root then some 0o755 else none)
  owner : (attributes.uid, attributes.gid) =
    (Change.latest (Change.owner? path) changes).getD (0, 0)

namespace Attributes.ToldBy

variable {path : Path} {changes : List Change} {attributes changed : Attributes} {change : Change}

/-- A change that does not give a mode leaves it, and so with the owner. -/
theorem append (told : attributes.ToldBy path changes)
    (mode : some changed.mode = (change.mode? path).or (some attributes.mode))
    (owner : (changed.uid, changed.gid) =
      (change.owner? path).getD (attributes.uid, attributes.gid)) :
    changed.ToldBy path (changes ++ [change]) := by
  constructor
  · rw [mode, told.mode, Change.latest_append, Change.latest_singleton, Option.or_assoc]
  · rw [owner, told.owner, Change.latest_append, Change.latest_singleton]
    cases change.owner? path <;> rfl

/-- What is made has its mode and the superuser for its owner, whatever stood there before. -/
theorem made (path : Path) (changes : List Change) (mode : UInt32) :
    (ofMode mode).ToldBy path (changes ++ [.made path mode]) := by
  constructor
  · rw [Change.latest_append, Change.latest_singleton, Change.mode?_made]
    rfl
  · rw [Change.latest_append, Change.latest_singleton, Change.owner?_made]
    rfl

end Attributes.ToldBy

namespace Record

/-- What a request changes where the record resolves its path. -/
def changes (record : Record) (request : Request) : List Change :=
  (request.change? record.resolve).toList

/-- The changes tell the attributes of every directory that there is. -/
def AttributesTold (changes : List Change) (record : Record) : Prop :=
  ∀ path attributes, record.directories.get? path = some attributes → attributes.ToldBy path changes

variable {record after : Record} {past : List Change}

/-- One directory gets other attributes, told by a change of its own. -/
theorem AttributesTold.insert (told : record.AttributesTold past) {own : Attributes} {change : Change}
    (owned : own.ToldBy change.target (past ++ [change])) :
    AttributesTold (past ++ [change]) { record with
      directories := record.directories.insert change.target own } := by
  intro path attributes found
  rw [Table.get?_insert] at found
  split at found
  next same =>
    cases found
    exact same ▸ owned
  next distinct =>
    obtain ⟨mode, owner⟩ := Change.elsewhere distinct
    refine (told path attributes found).append ?_ ?_
    · rw [mode, Option.none_or]
    · rw [owner, Option.getD_none]

/-- Attributes that are there are set. -/
theorem AttributesTold.setAttributes (told : record.AttributesTold past) {change : Change}
    {set : Attributes → Attributes} (served : record.setAttributes change.target set = .ok after)
    (mode : ∀ attributes, some (set attributes).mode =
      (change.mode? change.target).or (some attributes.mode))
    (owner : ∀ attributes, ((set attributes).uid, (set attributes).gid) =
      (change.owner? change.target).getD (attributes.uid, attributes.gid)) :
    after.AttributesTold (past ++ [change]) := by
  unfold Record.setAttributes at served
  split at served
  · cases served
  next attributes found =>
    cases served
    exact told.insert ((told _ attributes found).append (mode attributes) (owner attributes))

/-- Requests that change no attributes leave the directories that they leave as they were. -/
theorem serve_unchanging {surroundings : Surroundings} {request : Request}
    (unchanging : request.change? = fun _ => none)
    (served : record.serve surroundings request = .ok after) {path : Path} {attributes : Attributes}
    (found : after.directories.get? path = some attributes) :
    record.directories.get? path = some attributes := by
  cases request with
  | readConfig list => rwa [of_readConfig served] at found
  | parseEnv name | setOption key value | isMounted =>
    cases served
    exact found
  | mount root | unmount | release =>
    simp only [serve, mount, unmount] at served
    split at served
    all_goals cases served
    exact found
  | syncFs =>
    cases of_whenMounted served
    exact found
  | chdir path =>
    have entered := of_whenMounted served
    unfold enter at entered
    repeat' split at entered
    all_goals cases entered
    exact found
  | rmdir path =>
    have removed := of_whenMounted served
    unfold removeDir at removed
    repeat' split at removed
    all_goals cases removed
    exact Table.get?_of_erase found
  | mkdir path mode | chmod path mode | chown path uid gid => cases congrFun unchanging record.resolve

/-- Whatever is served, what it changes tells the attributes behind what was changed before. -/
theorem attributesTold_telling : Telling (fun _ => changes) AttributesTold where
  new clientId cluster path attributes found := by
    -- A new handle has the root alone, whose mode nobody gave it.
    have rooted : path = Path.root := by
      apply (mem_keys_new clientId cluster path).mp
      rw [Table.mem_keys_iff, Table.contains, found]
      rfl
    subst rooted
    cases found
    exact ⟨rfl, rfl⟩
  flag past record mounted told := told
  serve past record after surroundings request served told := by
    have unchanging (none : request.change? = fun _ => none) :
        after.AttributesTold (past ++ record.changes request) := by
      rw [changes, none, Option.toList_none, List.append_nil]
      exact fun path attributes found => told path attributes (serve_unchanging none served found)
    cases request with
    | mkdir path mode =>
      have made := of_whenMounted served
      unfold makeDir at made
      repeat' split at made
      all_goals cases made
      exact told.insert (.made _ past mode)
    | chmod path mode =>
      have set := of_whenMounted served
      refine AttributesTold.setAttributes told set (fun attributes => ?_) fun _ => rfl
      exact congrArg (Option.or · _) (Change.mode?_moded (record.resolve path.text) mode).symm
    | chown path uid gid =>
      have set := of_whenMounted served
      refine AttributesTold.setAttributes told set (fun _ => rfl) fun attributes => ?_
      exact congrArg (Option.getD · _) (Change.owner?_owned (record.resolve path.text) _ _).symm
    | _ => exact unchanging rfl

end Record

end InMemory

end CephMount
