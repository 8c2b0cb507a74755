import CephMount.Proofs.Session.Directories
import CephMount.Proofs.Session.Paths

/-! Making a directory and removing one undo each other.

Both rest on the tree: nothing lies in a directory that is not there, so what was just made is empty,
and a directory that is removed leaves the one that it lay in. That the path may be written relative to
the working directory, or name it, makes no difference, for neither operation moves it.
-/

set_option autoImplicit false

namespace CephMount

open InMemory

theorem Path.ne_of_parent? {path parent : Path} (above : path.parent? = some parent) : parent ≠ path := by
  rintro rfl
  obtain ⟨name, longer⟩ := parent?_eq_some_iff.mp above
  exact absurd (congrArg List.length longer) (by simp)

namespace InMemory

namespace Record

variable {record after : Record} {path : String} {mode : UInt32}

/-- A directory is made where none is, in one that is there. -/
theorem operate_make_eq_ok_iff :
    record.operate (.make path mode) = .ok after ↔
      record.mounted = true ∧ record.directories.contains (record.resolve path) = false ∧
        (∃ parent, (record.resolve path).parent? = some parent ∧
          record.directories.contains parent = true) ∧
        after = { record with
          directories := record.directories.insert (record.resolve path) (.ofMode mode) } := by
  simp only [operate, whenMounted, makeDir]
  constructor
  · intro made
    repeat' split at made
    case h_2.isFalse mounted absent _ parent above present =>
      cases made
      exact ⟨mounted, by simpa using absent, ⟨parent, above, by simpa using present⟩, rfl⟩
    all_goals cases made
  · rintro ⟨mounted, absent, ⟨parent, above, present⟩, rfl⟩
    simp [mounted, absent, above, present]

/-- A directory is removed if it is not the root and holds no other. -/
theorem operate_remove_eq_ok_iff :
    record.operate (.remove path) = .ok after ↔
      record.mounted = true ∧ record.resolve path ≠ Path.root ∧
        record.directories.contains (record.resolve path) = true ∧
        record.hasChildren (record.resolve path) = false ∧
        after = { record with directories := record.directories.erase (record.resolve path) } := by
  simp only [operate, whenMounted, removeDir]
  constructor
  · intro removed
    repeat' split at removed
    case isFalse mounted below present childless =>
      cases removed
      exact ⟨mounted, below, by simpa using present, by simpa using childless, rfl⟩
    all_goals cases removed
  · rintro ⟨mounted, below, present, childless, rfl⟩
    simp [mounted, below, present, childless]

/-- What was just made is there and empty, since nothing lay in it before, and is not the root. -/
theorem operate_remove_of_make (tree : record.IsTree)
    (made : record.operate (.make path mode) = .ok after) :
    after.operate (.remove path) = .ok record := by
  obtain ⟨mounted, absent, ⟨parent, above, present⟩, rfl⟩ := operate_make_eq_ok_iff.mp made
  let target := record.resolve path
  let directories := record.directories.insert target (.ofMode mode)
  have missing : target ∉ record.directories.keys := by
    rw [Table.mem_keys_iff]
    exact Bool.eq_false_iff.mp absent
  refine operate_remove_eq_ok_iff.mpr ⟨mounted, ?below, ?present, ?childless, ?same⟩
  case below =>
    intro rooted
    have top : target.parent? = none := Path.parent?_eq_none_iff.mpr rooted
    cases above.symm.trans top
  case present => exact Table.mem_keys_iff.mp (Table.mem_keys_insert.mpr (.inl rfl))
  case childless =>
    refine Bool.eq_false_iff.mpr fun holds => ?_
    obtain ⟨other, there, lies⟩ := List.any_eq_true.mp holds
    have lies : other.parent? = some target := beq_iff_eq.mp lies
    have below : other ≠ Path.root := fun rooted => by
      rw [Path.parent?_eq_none_iff.mpr rooted] at lies
      cases lies
    rcases Table.mem_keys_insert.mp there with rfl | there
    · exact Path.ne_of_parent? lies rfl
    · -- What lay in the target before had it for its parent, which was not there.
      obtain ⟨holder, own, member⟩ := tree.parents other there below
      cases own.symm.trans lies
      exact missing member
  case same =>
    have unmade : record.directories.get? target = none :=
      Option.not_isSome_iff_eq_none.mp (Bool.eq_false_iff.mp absent)
    have gone : directories.erase target = record.directories := by
      rw [Table.erase_insert, Table.erase_of_get?_eq_none unmade]
    change record = { record with directories := directories.erase target }
    rw [gone]

/-- What was just removed is not there, and the directory that it lay in still is. -/
theorem operate_make_of_remove (tree : record.IsTree)
    (removed : record.operate (.remove path) = .ok after) (mode : UInt32) :
    after.operate (.make path mode) = .ok { record with
      directories := record.directories.insert (record.resolve path) (.ofMode mode) } := by
  obtain ⟨mounted, below, present, childless, rfl⟩ := operate_remove_eq_ok_iff.mp removed
  let target := record.resolve path
  obtain ⟨parent, above, holds⟩ := tree.parents target (Table.mem_keys_iff.mpr present) below
  have apart : parent ≠ target := Path.ne_of_parent? above
  have gone : (record.directories.erase target).contains target = false := by
    rw [Table.contains, Table.get?_erase, if_pos rfl]
    rfl
  have stays : (record.directories.erase target).contains parent = true :=
    Table.mem_keys_iff.mp (Table.mem_keys_erase.mpr ⟨apart, holds⟩)
  refine operate_make_eq_ok_iff.mpr ⟨mounted, gone, ⟨parent, above, stays⟩, ?_⟩
  have remade : (record.directories.erase target).insert target (.ofMode mode) =
      record.directories.insert target (.ofMode mode) :=
    Table.insert_erase record.directories target (.ofMode mode)
  change _ = { record with directories := (record.directories.erase target).insert target (.ofMode mode) }
  rw [remade]

end Record

/-- The directories of a handle, of which a dead one has none. -/
def Library.directories (library : Library) (handle : Handle) : List Path :=
  ((library.record? handle).map fun record => record.directories.keys).getD []

end InMemory

namespace Session

variable {session : Session} {slot path : String} {operation next : PathOperation} {mount : Mount}
  {record between after : Record} {mode : UInt32}

/-- An operation that is granted leaves its mount to the next one, which is granted if the record that
is left allows it. -/
theorem operate_of_grants_twice (direct : session.Direct)
    (grants : session.Grants slot operation mount record between)
    (operates : between.operate next = .ok after) (unbroken : '\x00' ∉ next.target.toList)
    (unlaid : session.library.failures.get? operation.call = none)
    (unlaidNext : session.library.failures.get? next.call = none) :
    ∃ entries, (session.perform slot (.operate (.path operation))).session.perform slot
        (.operate (.path next)) = ⟨.answer .nothing, entries, session.withRecord mount.handle after⟩ := by
  obtain ⟨_, is⟩ := operate_of_grants direct grants unlaid
  have left : (session.withRecord mount.handle between).Grants slot next mount between after :=
    ⟨grants.held, record?_withRecord session mount.handle between, unbroken, operates⟩
  have alone : (session.withRecord mount.handle between).Direct := direct.withLibrary _
  obtain ⟨entries, nextIs⟩ := operate_of_grants alone left unlaidNext
  rw [is]
  exact ⟨entries, nextIs.trans (by rw [withRecord_withRecord])⟩

/-- A directory that is there already can be inserted again without there being more of them. -/
theorem mem_directories_withRecord (found : session.library.record? mount.handle = some record)
    {target : Path} (present : record.directories.contains target = true) (attributes : Attributes)
    (handle : Handle) (directory : Path) :
    directory ∈ (session.withRecord mount.handle { record with
        directories := record.directories.insert target attributes }).library.directories handle ↔
      directory ∈ session.library.directories handle := by
  by_cases same : handle = mount.handle
  · subst same
    simp only [Library.directories, record?_withRecord, found, Option.map_some, Option.getD_some]
    rw [Table.mem_keys_insert, or_iff_right_iff_imp]
    rintro rfl
    exact Table.mem_keys_iff.mpr present
  · have others : (session.withRecord mount.handle { record with
        directories := record.directories.insert target attributes }).library.record? handle =
          session.library.record? handle :=
      (Table.get?_insert ..).trans (if_neg (Handle.number_ne same))
    rw [Library.directories, others]
    rfl

/-- After any steps a directory that was made can be removed again, which leaves all as it was, and a
directory that was removed can be made again, which leaves the same directories. -/
theorem removing_undoes_making (steps : List Step)
    (unarranged : ∀ step ∈ steps, step.instruction.unarranged = true) (slot path : String) (mode : UInt32) :
    let session := ({} : Session).after steps
    let make := Instruction.operate (.path (.make path mode))
    let remove := Instruction.operate (.path (.remove path))
    let made := session.perform slot make
    let removed := session.perform slot remove
    let unmade := made.session.perform slot remove
    let remade := removed.session.perform slot make
    session.library.failures.get? "mkdir" = none → session.library.failures.get? "rmdir" = none →
    (made.result = .answer .nothing → unmade.result = .answer .nothing ∧ unmade.session = session) ∧
      (removed.result = .answer .nothing → remade.result = .answer .nothing ∧
        ∀ handle directory, directory ∈ remade.session.library.directories handle ↔
          directory ∈ session.library.directories handle) := by
  intro session make remove made removed unmade remade unlaidMake unlaidRemove
  have direct : session.Direct := (after_balances start_direct unarranged).1
  constructor
  · intro granted
    obtain ⟨mount, record, after, grants⟩ := grants_of_granted direct granted unlaidMake
    have tree : record.IsTree := (directories_form_tree steps _ _ grants.found).1
    have undone := Record.operate_remove_of_make tree grants.operates
    obtain ⟨_, is⟩ := operate_of_grants_twice direct grants undone grants.unbroken unlaidMake unlaidRemove
    rw [withRecord_of_found grants.found] at is
    exact ⟨congrArg Turn.result is, congrArg Turn.session is⟩
  · intro granted
    obtain ⟨mount, record, after, grants⟩ := grants_of_granted direct granted unlaidRemove
    have tree : record.IsTree := (directories_form_tree steps _ _ grants.found).1
    have redone := Record.operate_make_of_remove tree grants.operates mode
    obtain ⟨_, is⟩ := operate_of_grants_twice direct grants redone grants.unbroken unlaidRemove unlaidMake
    obtain ⟨-, -, present, -⟩ := Record.operate_remove_eq_ok_iff.mp grants.operates
    refine ⟨congrArg Turn.result is, fun handle directory => ?_⟩
    rw [show remade = _ from is]
    exact mem_directories_withRecord grants.found present (.ofMode mode) handle directory

/-- A directory is made and removed below the working directory, which is itself removed and made again
by a text that only says where the handle stands. -/
theorem removing_undoes_making_in_place :
    let steps : List Step :=
      [⟨"a", .create (.fresh none)⟩, ⟨"a", .operate .mount⟩,
        ⟨"a", .operate (.path (.make "a" 0o755))⟩, ⟨"a", .operate (.path (.make "a/b" 0o700))⟩,
        ⟨"a", .operate (.path (.setOwner "a/b" 1000 4294967295))⟩,
        ⟨"a", .operate (.path (.enter "a/b"))⟩, ⟨"", .control (.fail "chdir" (-5))⟩]
    let make (path : String) := Instruction.operate (.path (.make path 0o1777))
    let remove (path : String) := Instruction.operate (.path (.remove path))
    let session := ({} : Session).after steps
    let made := session.perform "a" (make "../b/./c")
    let unmade := made.session.perform "a" (remove "../b/./c")
    let removed := session.perform "a" (remove ".")
    let remade := removed.session.perform "a" (make ".")
    made.result = .answer .nothing ∧ unmade.result = .answer .nothing ∧ unmade.session = session ∧
      removed.result = .answer .nothing ∧ remade.result = .answer .nothing ∧
      ∀ directory, directory ∈ remade.session.library.directories ⟨1⟩ ↔
        directory ∈ [[], ["a"], ["a", "b"]] := by
  intro steps make remove session made unmade removed remade
  have undoes := removing_undoes_making steps (by decide)
  have unlaidMake : session.library.failures.get? "mkdir" = none := by decide +kernel
  have unlaidRemove : session.library.failures.get? "rmdir" = none := by decide +kernel
  have granted : made.result = .answer .nothing := by decide +kernel
  have also : removed.result = .answer .nothing := by decide +kernel
  obtain ⟨undone, same⟩ := (undoes "a" "../b/./c" 0o1777 unlaidMake unlaidRemove).1 granted
  obtain ⟨redone, directories⟩ := (undoes "a" "." 0o1777 unlaidMake unlaidRemove).2 also
  refine ⟨granted, undone, same, also, redone, fun directory => ?_⟩
  have stood : session.library.directories ⟨1⟩ = [[], ["a"], ["a", "b"]] := by decide +kernel
  rw [directories ⟨1⟩ directory, ← stood]

end Session

end CephMount
