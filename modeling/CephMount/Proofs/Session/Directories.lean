import CephMount.Proofs.InMemory.Directories
import CephMount.Proofs.Session.Steps

/-! The records of a session's live handles, and the directory tables among them.

Sessions of every kind count here: requests around the mounts, answers arranged in front of the
library, failures of any code and flags set behind the mounts' backs. What nothing takes away from a
record holds of all of them, so every directory table is a tree.
-/

set_option autoImplicit false

namespace CephMount

open InMemory

namespace Session

section

variable {property : Record → Prop} {session : Session}

theorem control_records (session : Session) (control : Control) :
    (session.control control).library.records = session.library.records := by
  cases control with
  | arrange arrangement times => exact congrArg Library.records (Arranged.addCopies_library ..)
  | _ => rfl

variable (lasting : Record.Lasting property)
include lasting

/-- A program leaves the property to every record, also when its run is cut short. -/
theorem run_each {α : Type} {start : Session} {program : Program α}
    {finish : Session → α → Session × Result} (each : start.library.Each property)
    (finished : ∀ session result, (finish session result).1.library = session.library) :
    (start.run program finish).session.library.Each property :=
  run_library (Library.Each property) (fun call _ => Library.answer_each lasting call) each finished

theorem vacate_each (each : session.library.Each property) (slot : String) :
    (session.vacate slot).session.library.Each property := by
  unfold vacate
  split
  · exact each
  · exact run_each lasting each fun _ _ => rfl

theorem make_each (each : session.library.Each property) (slot : String) (source : Source) :
    (session.make slot source).session.library.Each property := by
  unfold make
  split
  · exact each
  · refine run_each lasting each fun session outcome => ?_
    cases outcome <;> rfl

theorem perform_each (each : session.library.Each property) (slot : String)
    (instruction : Instruction) :
    (session.perform slot instruction).session.library.Each property := by
  let kept (turn : Turn) : Prop := turn.session.library.Each property
  have held {use : Mount → Turn} (used : ∀ mount, kept (use mount)) :
      kept (session.withMount slot use) :=
    withMount_turn slot each fun mount _ => used mount
  have had {use : Handle → Turn} (used : ∀ handle, kept (use handle)) :
      kept (session.withHandle slot use) :=
    withHandle_turn slot each used
  cases instruction with
  | control control => exact each.of_records (session.control_records control)
  | connect cluster | totals | commands => exact each
  | handle | attributes path => exact had fun _ => each
  | describe | liveHandles => exact held fun _ => each
  | setFlag mounted => exact had fun handle => each.setMountedFlag lasting handle mounted
  | around request => exact had fun _ => run_each lasting each fun _ _ => rfl
  | create source => exact make_each lasting (vacate_each lasting each slot) slot source
  | operate operation => exact held fun _ => run_each lasting each fun _ _ => rfl
  | release => exact held fun _ => run_each lasting each fun _ _ => rfl
  | drop => exact held fun _ => vacate_each lasting each slot

theorem after_each (each : session.library.Each property) (steps : List Step) :
    (session.after steps).library.Each property := by
  induction steps generalizing session with
  | nil => exact each
  | cons first rest ih => exact ih (perform_each lasting each first.slot first.instruction)

end

/-- After any steps the directories of every live handle make up a tree. So a path that is not there
has a parent when it is made, and a path that is entered has a text that can cross. -/
theorem directories_form_tree (steps : List Step) (handle : Handle) (record : Record)
    (found : (({} : Session).after steps).library.record? handle = some record) :
    record.IsTree ∧
      (∀ path : Path, record.directories.contains path = false → path.parent? ≠ none) ∧
      ∀ path : Terminated,
        ∃ text, Terminated.ofText (record.resolve path.text).text = .ok text := by
  have empty : ({} : Session).library.Each Record.IsTree := fun _ _ found => nomatch found
  have tree := after_each Record.isTree_lasting empty steps handle record found
  refine ⟨tree, fun path absent parentless => ?_, fun path => ?_⟩
  · rw [Path.parent?_eq_none_iff.mp parentless, Table.mem_keys_iff.mp tree.root] at absent
    cases absent
  · obtain ⟨text, crossed, -⟩ := Path.resolve_spells record.workingDir path
    exact ⟨text, crossed⟩

/-- A working directory is removed and a directory made beside it, a removal fails without an error,
and the handle is mounted again after its flag was cleared. -/
theorem removed_workingDir_forms_tree :
    let steps : List Step :=
      [⟨"a", .create (.fresh none)⟩, ⟨"a", .operate .mount⟩,
        ⟨"a", .operate (.path (.make "a" 0o755))⟩, ⟨"a", .operate (.path (.make "a//./b" 0o700))⟩,
        ⟨"a", .operate (.path (.enter "/a/b"))⟩, ⟨"", .control (.fail "rmdir" 0)⟩,
        ⟨"a", .operate (.path (.remove "."))⟩, ⟨"a", .operate (.path (.remove "../b"))⟩,
        ⟨"a", .setFlag false⟩, ⟨"a", .around (.mount none)⟩,
        ⟨"a", .operate (.path (.make "../../../c" 0o755))⟩]
    ∃ record, (({} : Session).after steps).library.record? ⟨1⟩ = some record ∧
      record.directories.keys = [[], ["a"], ["c"]] ∧ record.workingDir.text = "/a/b" ∧
      record.IsTree := by
  intro steps
  have live : ((({} : Session).after steps).library.record? ⟨1⟩).isSome = true := by decide +kernel
  obtain ⟨record, found⟩ := Option.isSome_iff_exists.mp live
  have stands : ((({} : Session).after steps).library.record? ⟨1⟩).map
      (fun record => (record.directories.keys, record.workingDir.text)) =
        some ([[], ["a"], ["c"]], "/a/b") := by decide +kernel
  rw [found, Option.map_some, Option.some.injEq, Prod.mk.injEq] at stands
  exact ⟨record, found, stands.1, stands.2, (directories_form_tree steps _ record found).1⟩

end Session

end CephMount
