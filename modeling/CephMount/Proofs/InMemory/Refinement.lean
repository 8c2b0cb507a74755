import CephMount.Proofs.FileTree
import CephMount.Proofs.InMemory.Creations
import CephMount.Proofs.InMemory.Directories
import CephMount.Proofs.Mount.History

/-! The flat table of directories refines a tree.

A record represents a file system when its table says of every path what a walk in the tree comes upon.
That a path is a key then is that the walk succeeds, and that no key lies right below it is that the
walk ends at a directory without others in it. So each request is refused, or served, on both sides.
-/

set_option autoImplicit false

namespace CephMount

open InMemory

/-- Taking names one after the other is following what is written between the slashes. -/
theorem FileSystem.descend_eq (path : Path) (parts : List (List Char)) :
    descend path (parts.map String.ofList) = parts.foldl Path.follow path := by
  induction parts generalizing path with
  | nil => rfl
  | cons part rest ih =>
    have named (text : String) : String.ofList part = text ↔ part = text.toList := by
      rw [← String.toList_inj, String.toList_ofList]
    rw [List.map_cons, List.foldl_cons, descend, ih, ih, ih, Path.follow]
    simp only [named, show "".toList = [] from rfl, show ".".toList = ['.'] from rfl,
      show "..".toList = ['.', '.'] from rfl]
    split
    · rfl
    · split <;> rfl

/-- A request of an operation on files neither mounts elsewhere, nor asks for the flag, nor ends the
handle. -/
theorem FileOperation.asks_cases {operation : FileOperation} {request : Request}
    (asks : operation.operation.Asks request) :
    (∀ root, request ≠ .mount (some root)) ∧ request ≠ .isMounted ∧ request ≠ .release := by
  cases operation with
  | currentDir => cases asks
  | mount => cases asks; simp
  | unmount => cases asks; simp
  | path operation =>
    obtain ⟨path, -, rfl⟩ : operation.Asks request := by cases asks; assumption
    cases operation <;> simp [PathOperation.requestOn]

namespace InMemory

namespace Record

/-- The record keeps the file system in its flat form. -/
structure Represents (record : Record) (files : FileSystem) : Prop where
  mounted : record.mounted = files.mounted
  normal : files.workingDir.IsNormal
  workingDir : record.workingDir.Spells files.workingDir.text
  directories : ∀ path, record.directories.get? path = files.tree.attributes? path

/-- Both are refused for the same reason, or what is left on one side represents what is left on the
other. -/
inductive Refines : Except Errno Record → Except Errno FileSystem → Prop where
  | refused (errno : Errno) : Refines (.error errno) (.error errno)
  | served {record : Record} {files : FileSystem} : record.Represents files →
      Refines (.ok record) (.ok files)

theorem represents_initial (clientId : Option String) (cluster : Option Nat) :
    (new clientId cluster).Represents .initial where
  mounted := rfl
  normal := Path.isNormal_root
  workingDir := Terminated.upToNul_of_not_mem (by decide)
  directories path := by
    cases path with
    | nil => rfl
    | cons name rest =>
      have below : name :: rest ≠ Path.root := List.cons_ne_nil name rest
      simp [new, FileSystem.initial, below]

namespace Represents

variable {record : Record} {files : FileSystem}

theorem resolve_eq (represents : record.Represents files) (text : String) :
    files.resolve text = record.resolve text := by
  have stood : Path.root.walk record.workingDir.text.toList = files.workingDir := by
    rw [represents.workingDir.text_eq, Path.walk_text represents.normal]
  rw [FileSystem.resolve, FileSystem.descend_eq, Record.resolve, Path.resolve, stood, Path.isAbsolute]
  by_cases absolute : text.toList.head? = some '/' <;> simp [absolute, Path.walk]

theorem contains_eq (represents : record.Represents files) (path : Path) :
    record.directories.contains path = (files.tree.reach? path).isSome := by
  rw [Table.contains, represents.directories, FileTree.attributes?, Option.isSome_map]

/-- A directory has a key right below it exactly if the walk to it ends at one that is not empty. -/
theorem hasChildren_iff (represents : record.Represents files) {path : Path} {node : FileTree}
    (reached : files.tree.reach? path = some node) :
    record.hasChildren path = true ↔ node.children ≠ [] := by
  rw [← node.exists_child?_iff, hasChildren, List.any_eq_true]
  constructor
  · rintro ⟨other, member, below⟩
    obtain ⟨name, rfl⟩ := Path.parent?_eq_some_iff.mp (beq_iff_eq.mp below)
    rw [Table.mem_keys_iff, represents.contains_eq, FileTree.reach?_append, reached] at member
    obtain ⟨child, found⟩ := Option.isSome_iff_exists.mp member
    exact ⟨name, child, by simpa using found⟩
  · rintro ⟨name, child, found⟩
    refine ⟨path ++ [name], ?_, beq_iff_eq.mpr (Path.parent?_append path name)⟩
    rw [Table.mem_keys_iff, represents.contains_eq, FileTree.reach?_append, reached]
    simp [found]

/-! Each thing done to a directory. -/

theorem enter {path : Path} {text : String} {string : Terminated}
    (represents : record.Represents files) (named : files.resolve text = path)
    (normal : path.IsNormal) (crossed : Terminated.ofText path.text = .ok string)
    (spells : string.Spells path.text) :
    Refines (record.enter path) (files.atPath (.enter text)) := by
  simp only [FileSystem.atPath, named, Record.enter, represents.contains_eq, crossed]
  cases reached : files.tree.reach? path with
  | none => exact .refused _
  | some node => exact .served ⟨represents.mounted, normal, spells, represents.directories⟩

theorem makeDir {path : Path} {text : String} (mode : UInt32)
    (represents : record.Represents files) (named : files.resolve text = path) :
    Refines (record.makeDir path mode) (files.atPath (.make text mode)) := by
  simp only [FileSystem.atPath, named, Record.makeDir, represents.contains_eq]
  rcases List.eq_nil_or_concat path with rfl | ⟨parent, name, rfl⟩
  · simp only [FileTree.reach?_nil]
    exact .refused _
  rw [List.concat_eq_append, Path.parent?_append, List.dropLast_concat, List.getLastD_concat]
  cases reached : files.tree.reach? (parent ++ [name]) with
  | some node => exact .refused _
  | none =>
    dsimp only
    cases above : files.tree.reach? parent with
    | none => exact .refused _
    | some node =>
      refine .served ⟨represents.mounted, represents.normal, represents.workingDir, fun other => ?_⟩
      rw [Table.get?_insert, FileTree.attributes?_addChild above reached, represents.directories]

theorem removeDir {path : Path} {text : String} (represents : record.Represents files)
    (named : files.resolve text = path) :
    Refines (record.removeDir path) (files.atPath (.remove text)) := by
  simp only [FileSystem.atPath, named, Record.removeDir, represents.contains_eq]
  split
  · exact .refused _
  next below =>
    -- Below the root a path is that of its parent and a name.
    rcases List.eq_nil_or_concat path with rfl | ⟨parent, name, rfl⟩
    · exact absurd rfl below
    rw [List.concat_eq_append, List.dropLast_concat, List.getLastD_concat]
    cases reached : files.tree.reach? (parent ++ [name]) with
    | none => exact .refused _
    | some node =>
      have inhabited := represents.hasChildren_iff reached
      obtain ⟨attributes, children⟩ := node
      cases children with
      | cons first rest =>
        rw [if_pos (inhabited.mpr (List.cons_ne_nil first rest))]
        exact .refused _
      | nil =>
        rw [if_neg fun held => inhabited.mp held rfl]
        refine .served ⟨represents.mounted, represents.normal, represents.workingDir, fun other => ?_⟩
        rw [Table.get?_erase, FileTree.attributes?_removeChild reached, represents.directories]

theorem setAttributes {path : Path} {text : String} (change : Attributes → Attributes)
    (represents : record.Represents files) (named : files.resolve text = path) :
    Refines (record.setAttributes path change) (files.changeAt text change) := by
  simp only [FileSystem.changeAt, named, Record.setAttributes, represents.directories,
    FileTree.attributes?]
  cases reached : files.tree.reach? path with
  | none => exact .refused _
  | some node =>
    refine .served ⟨represents.mounted, represents.normal, represents.workingDir, fun other => ?_⟩
    rw [Table.get?_insert, FileTree.attributes?_changeAttributes reached, represents.directories]

/-- Each request of an operation is refused or served as the operation is. -/
theorem serve (represents : record.Represents files) (surroundings : Surroundings)
    {operation : FileOperation} {request : Request} (asks : operation.operation.Asks request) :
    Refines (record.serve surroundings request) (files.perform operation) := by
  have whenMounted {result : Except Errno Record} {other : Except Errno FileSystem}
      (refines : Refines result other) :
      Refines (record.whenMounted result)
        (if files.mounted then other else .error Errno.notConnected) := by
    rw [Record.whenMounted, represents.mounted]
    split
    · exact refines
    · exact .refused _
  cases operation with
  | currentDir => cases asks
  | mount =>
    cases asks
    simp only [Record.serve, Record.mount, FileSystem.perform, represents.mounted]
    split
    · exact .refused _
    · exact .served ⟨rfl, represents.normal, represents.workingDir, represents.directories⟩
  | unmount =>
    cases asks
    simp only [Record.serve, Record.unmount, FileSystem.perform, represents.mounted]
    split
    · exact .served ⟨rfl, represents.normal, represents.workingDir, represents.directories⟩
    · exact .refused _
  | path operation =>
    obtain ⟨path, spells, rfl⟩ : operation.Asks request := by cases asks; assumption
    have named : files.resolve operation.target = record.resolve path.text := by
      rw [spells.text_eq, represents.resolve_eq]
    cases operation with
    | enter text =>
      obtain ⟨string, crossed, spelled⟩ := Path.resolve_spells record.workingDir path
      exact whenMounted
        (represents.enter named (Path.resolve_isNormal _ _) crossed spelled)
    | make text mode => exact whenMounted (represents.makeDir mode named)
    | remove text => exact whenMounted (represents.removeDir named)
    | setMode text mode => exact whenMounted (represents.setAttributes _ named)
    | setOwner text uid gid =>
      have same : (fun attributes : Attributes =>
          { attributes with uid := uid.toInt32.toUInt32, gid := gid.toInt32.toUInt32 }) =
            fun attributes => { attributes with uid, gid } := by
        simp
      have set := represents.setAttributes (fun attributes => { attributes with uid, gid }) named
      exact whenMounted (same ▸ set)

end Represents

end Record

namespace Library

/-- The record of the handle represents the file system. -/
def Shows (library : Library) (handle : Handle) (files : FileSystem) : Prop :=
  ∃ record, library.record? handle = some record ∧ record.Represents files

/-- No failure is laid up besides. -/
structure Holds (library : Library) (handle : Handle) (files : FileSystem) : Prop where
  unfailing : library.failures = .empty
  shows : library.Shows handle files

variable {library : Library} {files : FileSystem}

theorem charge_unfailing (unfailing : library.failures = .empty) (request : Request) :
    (library.charge request).failures = .empty := by
  rw [charge_failures, unfailing]
  cases failureName? request <;> rfl

/-- The request of an operation is answered with the code of the operation. -/
theorem request_refines {handle : Handle} (holds : library.Holds handle files)
    {operation : FileOperation} {request : Request} (asks : operation.operation.Asks request) :
    ∃ after, library.request handle request = (.ok (files.code operation), after) ∧
      after.Holds handle (files.after operation) := by
  obtain ⟨unfailing, record, found, represents⟩ := holds
  obtain ⟨unrooted, unasked, kept⟩ := FileOperation.asks_cases asks
  obtain ⟨code, after, answered, serves⟩ := request_serves request found unrooted
  have none : library.pending? request = none := by
    rw [pending?_eq, unfailing]
    cases failureName? request <;> rfl
  have refines := represents.serve library.surroundings asks
  have charged := charge_unfailing unfailing request
  refine ⟨after, ?_⟩
  rw [answered, FileSystem.code, FileSystem.after]
  -- With no failure in its way the request is refused or served, and so is the operation.
  cases serves with
  | failed pending => cases pending.symm.trans none
  | refused _ refused =>
    rw [refused] at refines
    generalize files.perform operation = performed at refines ⊢
    cases refines
    exact ⟨rfl, charged, record, (record?_charge ..).trans found, represents⟩
  | @served next _ served =>
    rw [served] at refines
    generalize files.perform operation = performed at refines ⊢
    cases refines with
    | served represents =>
      have zero : answerCode record request = 0 := by
        cases request with
        | isMounted => exact absurd rfl unasked
        | _ => rfl
      have present : ((library.charge request).settle handle request next).record? handle =
          some next := by
        cases request with
        | release => exact absurd rfl kept
        | _ => simp [settle, record?]
      exact ⟨by rw [zero], charged, next, present, represents⟩

/-- A checked request gives what the code of the operation says. -/
theorem checked_refines {mount : Mount} (holds : library.Holds mount.handle files)
    {operation : FileOperation} {request : Request} (asks : operation.operation.Asks request) :
    (mount.checked request).Meets discipline library fun _ outcome after =>
      outcome = outcomeOf (files.code operation) ∧ after.Holds mount.handle (files.after operation) := by
  obtain ⟨after, answered, left⟩ := request_refines holds asks
  obtain ⟨-, record, found, -⟩ := holds
  refine ⟨fun _ onHandle => Option.some.inj onHandle ▸ isLive_of_found found, _, after, answered, ?_⟩
  apply (checkedCode_meets _ _ _).mono
  intro _ outcome _ checked
  obtain ⟨-, rfl, rfl⟩ := checked
  exact ⟨rfl, left⟩

/-- One operation gives what the file system gives, and the record represents what it leaves. -/
theorem perform_refines {mount : Mount} (holds : library.Holds mount.handle files)
    {operation : FileOperation} (unbroken : operation.Unbroken) :
    (mount.perform operation.operation).Meets discipline library fun _ result after =>
      result.1 = files.answer operation ∧ result.2.handle = mount.handle ∧
        after.Holds mount.handle (files.after operation) := by
  have advanced (request : Request) (state : MountState)
      (asks : operation.operation.Asks request) :
      (mount.advance request state).Meets discipline library fun _ result after =>
        result.1 = outcomeOf (files.code operation) ∧ result.2.handle = mount.handle ∧
          after.Holds mount.handle (files.after operation) := by
    rw [Mount.advance, Program.bind_eq_bind, Program.meets_bind]
    apply (checked_refines holds asks).mono
    rintro _ outcome after ⟨same, left⟩
    cases outcome with
    | error error => exact ⟨same, rfl, left⟩
    | ok => exact ⟨same, rfl, left⟩
  cases operation with
  | currentDir =>
    obtain ⟨unfailing, record, found, represents⟩ := holds
    refine ⟨fun _ onHandle => Option.some.inj onHandle ▸ isLive_of_found found,
      some record.workingDir, library, ?_, ?_⟩
    · change answer (.currentDir mount.handle) library = _
      simp only [answer, look, found]
    · exact ⟨congrArg (Except.ok ∘ Answer.text) represents.workingDir.text_eq, rfl, unfailing, record,
        found, represents⟩
  | mount =>
    rw [FileOperation.operation, Mount.perform, Mount.mount_eq, Program.bind_eq_bind, Program.meets_bind]
    apply (advanced _ .mounted .mount).mono
    rintro _ ⟨outcome, after⟩ _ ⟨rfl, same, left⟩
    exact ⟨rfl, same, left⟩
  | unmount =>
    rw [FileOperation.operation, Mount.perform, Mount.unmount_eq, Program.bind_eq_bind, Program.meets_bind]
    apply (advanced _ .unmounted .unmount).mono
    rintro _ ⟨outcome, after⟩ _ ⟨rfl, same, left⟩
    exact ⟨rfl, same, left⟩
  | path operation =>
    obtain ⟨path, crossed, spells⟩ := Terminated.ofText_of_unbroken unbroken
    have asks : (FileOperation.path operation).operation.Asks (operation.requestOn path) :=
      .path ⟨path, spells, rfl⟩
    rw [FileOperation.operation, Mount.perform, Mount.atPath, operation.request_eq, crossed]
    rw [Program.bind_eq_bind, Program.meets_bind]
    apply (checked_refines holds asks).mono
    rintro _ outcome _ ⟨rfl, left⟩
    exact ⟨rfl, rfl, left⟩

/-- Operations one after the other, by one lemma for each. -/
theorem performAll_refines {mount : Mount} (holds : library.Holds mount.handle files)
    (operations : List FileOperation) (unbroken : ∀ operation ∈ operations, operation.Unbroken) :
    (mount.performAll (operations.map FileOperation.operation)).Meets discipline library
      fun _ result after => result.1 = files.answers operations ∧ result.2.handle = mount.handle ∧
        after.Holds mount.handle (files.afterAll operations) := by
  induction operations generalizing mount library files with
  | nil => exact ⟨rfl, rfl, holds⟩
  | cons operation rest ih =>
    rw [List.map_cons, Mount.performAll, Program.bind_eq_bind, Program.meets_bind]
    apply (perform_refines holds (unbroken operation List.mem_cons_self)).mono
    rintro _ ⟨outcome, next⟩ between ⟨rfl, same, left⟩
    -- The rest is performed on the mount as it is now, which has the handle it had.
    change next.handle = mount.handle at same
    rw [← same] at left ⊢
    apply (Program.meets_bind ..).mpr
    apply (ih left fun other member => unbroken other (List.mem_cons_of_mem operation member)).mono
    rintro _ ⟨outcomes, last⟩ after ⟨rfl, kept, holds⟩
    exact ⟨rfl, kept, holds⟩

/-! Before the first operation there is nothing but the root. -/

theorem Serves.shows_of_asks {handle : Handle} {record : Record} {setting : Setting}
    {request : Request} {code : Int32} {after : Library}
    (serves : Serves library handle record request code after) (asks : setting.Asks request)
    (found : library.record? handle = some record) (represents : record.Represents files) :
    after.Shows handle files := by
  cases serves with
  | failed _ => exact ⟨record, (record?_charge ..).trans found, represents⟩
  | refused _ _ => exact ⟨record, (record?_charge ..).trans found, represents⟩
  | @served next _ served =>
    have kept : next.mounted = record.mounted ∧ next.workingDir = record.workingDir ∧
        next.directories = record.directories := by
      cases asks with
      | defaultConfig | configFile list =>
        rw [Record.serve] at served
        rw [Record.of_readConfig served]
        exact ⟨rfl, rfl, rfl⟩
      | defaultVariable | environment _ | option _ _ =>
        cases served
        exact ⟨rfl, rfl, rfl⟩
    obtain ⟨mounted, workingDir, directories⟩ := kept
    refine ⟨next, ?_, mounted.trans represents.mounted, represents.normal,
      workingDir ▸ represents.workingDir, directories ▸ represents.directories⟩
    cases asks <;> simp [settle, record?]

/-- No step in configuring a mount changes what its record shows. -/
theorem configure_shows {mount : Mount} (shown : library.Shows mount.handle files)
    (setting : Setting) :
    (mount.configure setting).Meets discipline library fun _ result after =>
      mount.SameHolding result.2 ∧ after.Shows mount.handle files := by
  have asks : (mount.configure setting).Within
      (fun call => ∃ request, call = .request mount.handle request ∧ setting.Asks request)
      fun result => mount.SameHolding result.2 := by
    refine mount.configure_calls setting fun request accepted => ?_
    rcases setting.request_cases with ⟨other, crossed, asks⟩ | ⟨offset, crossed, -⟩
    · cases accepted.symm.trans crossed
      exact ⟨request, rfl, asks⟩
    · cases accepted.symm.trans crossed
  refine asks.meets ?_ shown
  rintro _ between ⟨request, rfl, asks⟩ ⟨record, found, represents⟩
  have unrooted (root : Terminated) : request ≠ .mount (some root) := by cases asks <;> simp
  obtain ⟨code, after, answered, serves⟩ := request_serves request found unrooted
  exact ⟨fun _ onHandle => Option.some.inj onHandle ▸ isLive_of_found found, code, after, answered,
    serves.shows_of_asks asks found represents⟩

/-- A mount that is prepared shows what it showed before. -/
theorem prepare_shows {mount : Mount} (shown : library.Shows mount.handle files)
    (settings : List Setting) :
    (mount.prepare settings).Meets discipline library fun _ outcome after =>
      ∀ prepared, outcome = .ok prepared → after.Shows prepared.handle files := by
  induction settings generalizing mount library with
  | nil =>
    rintro _ ⟨⟩
    exact shown
  | cons setting rest ih =>
    rw [Mount.prepare, Program.bind_eq_bind, Program.meets_bind]
    apply (configure_shows shown setting).mono
    rintro _ ⟨outcome, next⟩ between ⟨⟨same, -⟩, shown⟩
    change next.handle = mount.handle at same
    rw [← same] at shown
    cases outcome with
    | ok => exact ih shown
    | error error =>
      -- The mount is dropped, and none is prepared that could show anything.
      obtain ⟨record, found, -⟩ := shown
      apply (Program.meets_bind ..).mpr
      apply (drop_meets next found).mono
      rintro _ _ _ - _ ⟨⟩

/-- However a mount was made, nothing but the root is there, and it is not mounted. -/
theorem creation_shows (library : Library) (creation : Creation) :
    creation.program.Meets discipline library fun _ outcome after =>
      ∀ mount, outcome = .ok mount → after.Shows mount.handle .initial := by
  have allocated (name : String) (clientId : Option String) (cluster : Option Nat)
      (call : String) (success : Handle → Event) :
      (Mount.allocated call success (library.create name (.new clientId cluster)).1).Meets discipline
        (library.create name (.new clientId cluster)).2 fun _ outcome after =>
          ∀ mount, outcome = .ok mount → after.Shows mount.handle .initial := by
    unfold create takeFailure
    cases library.failures.get? name with
    | some code => rintro _ ⟨⟩
    | none =>
      rintro _ ⟨⟩
      exact ⟨_, by simp [newHandle, record?], Record.represents_initial clientId cluster⟩
  have created (id : Option String) :
      (Mount.create id).Meets discipline library fun _ outcome after =>
        ∀ mount, outcome = .ok mount → after.Shows mount.handle .initial := by
    unfold Mount.create
    split
    · rintro _ ⟨⟩
    · exact ⟨fun _ onHandle => (by cases onHandle), _, _, rfl, allocated ..⟩
  cases creation with
  | fresh id => exact created id
  | derived cluster =>
    exact ⟨fun _ onHandle => (by cases onHandle), _, _, rfl, allocated ..⟩
  | prepared config =>
    rw [Creation.program, Mount.fromConfig, Program.bind_eq_bind, Program.meets_bind]
    apply (created config.clientId).mono
    intro _ outcome between shown
    cases outcome with
    | error error => rintro _ ⟨⟩
    | ok mount => exact prepare_shows (shown mount rfl) config.settings

end Library

end InMemory

/-- However a mount was made, what operations on files give through it while no failure is laid up is
what they give on a tree with nothing but the root, and its record keeps that tree in the end. -/
theorem Creation.refines_tree {creation : Creation} {library start : Library} {opening : List Entry}
    {mount : Mount}
    (made : creation.program.run Library.answer library = ⟨.ok (.ok mount), opening, start⟩)
    (unfailing : start.failures = .empty) (operations : List FileOperation)
    (unbroken : ∀ operation ∈ operations, operation.Unbroken) :
    ∃ entries last final,
      (mount.performAll (operations.map FileOperation.operation)).run Library.answer start =
          ⟨.ok (FileSystem.initial.answers operations, last), entries, final⟩ ∧
        ∃ record, final.record? mount.handle = some record ∧
          record.Represents (FileSystem.initial.afterAll operations) := by
  obtain ⟨_, _, _, ran, shows⟩ := (Library.creation_shows library creation).run
  cases made.symm.trans ran
  have holds : start.Holds mount.handle .initial := ⟨unfailing, shows mount rfl⟩
  obtain ⟨entries, ⟨outcomes, last⟩, final, performed, same, -, left⟩ :=
    (Library.performAll_refines holds operations unbroken).run
  change outcomes = _ at same
  subst same
  exact ⟨entries, last, final, performed, left.shows⟩

/-- A directory is not removed while another one is in it, then both are, one of them from within. -/
theorem emptied_directory_refines_tree :
    let operations : List FileOperation :=
      [.path (.make "a" 0o755), .mount, .mount, .path (.make "a" 0o1777), .path (.make "a/./b" 0o700),
        .path (.remove "//a/"), .path (.enter "a/b"), .path (.remove "/a/b"), .currentDir,
        .path (.make "c" 0o755), .path (.remove "../../a"), .path (.setMode "/a" 0o755),
        .path (.remove "/.."), .unmount, .unmount]
    ∃ opening start entries last final,
      (Creation.fresh none).program.run Library.answer {} =
          ⟨.ok (.ok ⟨⟨1⟩, .allocated⟩), opening, start⟩ ∧
        start.failures = .empty ∧ (∀ operation ∈ operations, operation.Unbroken) ∧
        (Mount.performAll ⟨⟨1⟩, .allocated⟩ (operations.map FileOperation.operation)).run Library.answer
            start = ⟨.ok (FileSystem.initial.answers operations, last), entries, final⟩ ∧
        FileSystem.initial.answers operations =
          [.error (.library ⟨-107⟩), .ok .nothing, .error (.library ⟨-106⟩), .ok .nothing, .ok .nothing,
            .error (.library ⟨-39⟩), .ok .nothing, .ok .nothing, .ok (.text "/a/b"),
            .error (.library ⟨-2⟩), .ok .nothing, .error (.library ⟨-2⟩), .error (.library ⟨-16⟩),
            .ok .nothing, .error (.library ⟨-107⟩)] := by
  intro operations
  have unbroken : ∀ operation ∈ operations, operation.Unbroken := by
    simp [operations, FileOperation.Unbroken, PathOperation.target]
  have made : (Creation.fresh none).program.run Library.answer {} =
      ⟨.ok (.ok ⟨⟨1⟩, .allocated⟩), _, _⟩ := rfl
  obtain ⟨entries, last, final, performed, -⟩ := Creation.refines_tree made rfl operations unbroken
  refine ⟨_, _, entries, last, final, made, rfl, unbroken, performed, ?_⟩
  rfl

end CephMount
