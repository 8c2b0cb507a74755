import CephMount.InMemory.Arranged
import CephMount.Proofs.InMemory.Requests
import CephMount.Proofs.Program

/-! What holds of every record that the in-memory library keeps.

A property that new records have, and that no request and no set flag takes away, holds of every record
along every run: whatever is called on live or dead handles, whatever fails, and whatever answers are
arranged in front of the library.
-/

set_option autoImplicit false

namespace CephMount.InMemory

/-- Nothing that can happen to a record takes the property away. -/
structure Record.Lasting (property : Record → Prop) : Prop where
  new : ∀ clientId cluster, property (.new clientId cluster)
  serve : ∀ record after surroundings request,
    record.serve surroundings request = .ok after → property record → property after
  flag : ∀ record mounted, property record → property { record with mounted }

namespace Library

/-- Every record of a live handle has the property. -/
def Each (property : Record → Prop) (library : Library) : Prop :=
  ∀ handle record, library.record? handle = some record → property record

namespace Each

variable {property : Record → Prop} {library : Library}

theorem of_records {before after : Library} (same : after.records = before.records)
    (each : before.Each property) : after.Each property := by
  intro handle record found
  rw [record?, same] at found
  exact each handle record found

theorem insert (each : library.Each property) {record : Record} (holds : property record)
    (number : Nat) :
    Each property { library with records := library.records.insert number record } := by
  intro handle other found
  rw [record?, Table.get?_insert] at found
  split at found
  · cases found
    exact holds
  · exact each handle other found

theorem erase (each : library.Each property) (number : Nat) :
    Each property { library with records := library.records.erase number } :=
  fun handle record found => each handle record (Table.get?_of_erase found)

theorem setMountedFlag (lasting : Record.Lasting property) (each : library.Each property)
    (handle : Handle) (mounted : Bool) : (library.setMountedFlag handle mounted).Each property := by
  intro other record found
  rw [record?, Library.setMountedFlag, Table.get?_modify] at found
  split at found
  · obtain ⟨earlier, present, rfl⟩ := Option.map_eq_some_iff.mp found
    exact lasting.flag earlier mounted (each handle earlier present)
  · exact each other record found

end Each

variable {property : Record → Prop} {library : Library}

/-- A request that no record serves changes none. -/
theorem request_records_of_dead {handle : Handle} (dead : library.record? handle = none)
    (request : Request) : (library.request handle request).2.records = library.records := by
  have unlessFailing (library : Library) (request : Request)
      (dead : library.record? handle = none) :
      (library.serveUnlessFailing handle request).2.records = library.records := by
    have taken : (library.takeRequestFailure request).2.records = library.records := by
      unfold takeRequestFailure
      split <;> rfl
    unfold serveUnlessFailing
    split
    next code after same => rw [← taken, same]
    next after same =>
      rw [same] at taken
      have absent : after.record? handle = none := by rw [record?, taken]; exact dead
      rw [serve, absent]
      exact taken
  unfold Library.request
  split
  · rfl
  · rw [dead]
    rfl
  · exact unlessFailing { library with releases := library.releases + 1 } .release dead
  · exact unlessFailing library request dead

theorem request_each (lasting : Record.Lasting property) (handle : Handle) (request : Request)
    (each : library.Each property) : (library.request handle request).2.Each property := by
  cases found : library.record? handle with
  | none => exact each.of_records (request_records_of_dead found request)
  | some record =>
    by_cases rooted : ∃ root, request = .mount (some root)
    · obtain ⟨root, rfl⟩ := rooted
      exact each
    · obtain ⟨code, after, answered, serves⟩ :=
        request_serves request found fun root same => rooted ⟨root, same⟩
      have charged : (library.charge request).Each property :=
        each.of_records (charge_records library request)
      rw [answered]
      cases serves with
      | failed _ | refused _ _ => exact charged
      | @served changed _ served =>
        have holds := lasting.serve record changed _ request served (each handle record found)
        cases request with
        | release => exact charged.erase handle.number
        | _ => exact charged.insert holds handle.number

/-- Each call keeps what lasts, whether it is answered or refused. -/
theorem answer_each (lasting : Record.Lasting property) (call : Call)
    (each : library.Each property) : (answer call library).2.Each property := by
  have created (name : String) (record : Record) (holds : property record) :
      (library.create name record).2.Each property := by
    unfold create takeFailure
    cases library.failures.get? name with
    | some code => exact each.of_records rfl
    | none => exact Each.insert (each.of_records rfl) holds _
  cases call with
  | create id => exact created _ _ (lasting.new _ _)
  | createFromCluster cluster => exact created _ _ (lasting.new _ _)
  | request handle request => exact request_each lasting handle request each
  | readOption handle key buffer | currentDir handle =>
    simp only [answer, look]
    split <;> exact each
  | command handle command =>
    obtain ⟨received, live, recorded⟩ := library.command_frame handle command
    rw [answer, recorded]
    exact each.of_records rfl
  | freeBuffer part id =>
    obtain ⟨live, freed, returned⟩ := library.free_frame id
    rw [answer, returned]
    exact each.of_records rfl
  | version => exact each

end Library

namespace Arranged

/-- What each call of the library keeps is kept with answers arranged in front of it: they pass the
call on, leave the library alone, or free what nobody will see. -/
theorem answer_library {invariant : Library → Prop}
    (calls : ∀ call library, invariant library → invariant (Library.answer call library).2)
    (call : Call) (state : Arranged) (holds : invariant state.library) :
    invariant (answer call state).2.library := by
  have passed (call : Call) (state : Arranged) (holds : invariant state.library) :
      invariant (state.pass call).2.library := calls call state.library holds
  have discarded (state : Arranged) (returned : Returned) (holds : invariant state.library) :
      invariant (state.discard returned).library := by
    unfold discard
    split
    · exact holds
    next buffer _ => exact calls (.freeBuffer .output buffer.id) state.library holds
  have allocated (state : Arranged) (arranged : ArrangedBuffer) :
      (state.allocate arranged).2.library = state.library := by
    unfold allocate
    split <;> rfl
  unfold answer
  split
  · split
    · exact holds
    · exact passed _ state holds
  · split
    · exact holds
    · exact passed _ state holds
  · split
    · exact holds
    · exact passed _ state holds
  next handle command =>
    split
    next reply rest waiting =>
      have own := passed (.command handle command) { state with replies := rest } holds
      unfold replace
      split
      next misuse after refused =>
        rw [refused] at own
        exact own
      next reply after answered =>
        rw [answered] at own
        dsimp only
        rw [allocated, allocated]
        exact discarded _ _ (discarded _ _ own)
    · exact passed _ state holds
  next number =>
    unfold free
    split <;> exact holds
  · split
    · exact holds
    · exact passed _ state holds
  · exact passed _ state holds

/-- What is arranged in front of the library leaves it. -/
theorem addCopies_library (state : Arranged) (arrangement : Arrangement) (times : Nat) :
    (state.addCopies arrangement times).library = state.library := by
  induction times generalizing state with
  | zero => rfl
  | succ times ih =>
    rw [addCopies, ih]
    cases arrangement <;> rfl

end Arranged

end CephMount.InMemory
