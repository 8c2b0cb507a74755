import CephMount.Proofs.InMemory.Failures

/-! What records keep, told from the requests that were granted on each handle.

Something is noted on a handle for each request that is granted there, and may depend on what the
request finds. Where such notes tell what a record keeps, one request after another, they tell it along
every run. Nothing is noted for what fails or is refused, on other handles, or on handles that are
still to come.
-/

set_option autoImplicit false

namespace CephMount

open InMemory

namespace InMemory

variable {ε : Type}

/-- The notes tell what a record keeps: from new records on, with each request that is served. The flag
that is set from outside is not what they tell. -/
structure Record.Telling (note : Surroundings → Record → Request → List ε)
    (told : List ε → Record → Prop) : Prop where
  new : ∀ clientId cluster, told [] (.new clientId cluster)
  serve : ∀ past record after surroundings request,
    record.serve surroundings request = .ok after → told past record →
      told (past ++ note surroundings record request) after
  flag : ∀ past record mounted, told past record → told past { record with mounted }

namespace Library

/-- What is noted on a handle for a call that is answered: something only for a request on it that is
granted. -/
def notes (note : Surroundings → Record → Request → List ε) (library : Library) (handle : Handle) :
    (call : Call) → call.Reply → List ε
  | .request holder request, code =>
    if holder = handle ∧ code = 0 then
      ((library.record? holder).map fun record => note library.surroundings record request).getD []
    else []
  | _, _ => []

/-- A call for which nothing can be noted adds nothing. -/
theorem notes_eq_nil {note : Surroundings → Record → Request → List ε} {library : Library} {call : Call}
    (silent : ∀ holder request, call = .request holder request →
      ∀ surroundings record, note surroundings record request = [])
    (handle : Handle) (reply : call.Reply) : library.notes note handle call reply = [] := by
  cases call with
  | request holder request =>
    rw [notes]
    cases library.record? holder with
    | none => exact ite_self []
    | some record =>
      rw [Option.map_some, Option.getD_some, silent holder request rfl]
      exact ite_self []
  | _ => rfl

/-- Of every live handle the past is what its record is told by. Handles that are still to come have no
past, and no failure that is laid up says success. -/
structure Tells (told : List ε → Record → Prop) (library : Library) (past : Handle → List ε) : Prop where
  told : ∀ handle record, library.record? handle = some record → told (past handle) record
  unborn : ∀ handle, library.nextHandle ≤ handle.number → past handle = []
  numbered : library.Numbered
  failuresFail : library.FailuresFail

/-- A dead handle is answered by nothing but a failure that is laid up. -/
theorem FailuresFail.failed_of_dead {library after : Library} {handle : Handle} {request : Request}
    {code : Int32} (fail : library.FailuresFail) (dead : library.record? handle = none)
    (answered : library.request handle request = (.ok code, after)) : code ≠ 0 := by
  have unlessFailing (library : Library) (fail : library.FailuresFail)
      (dead : library.record? handle = none)
      (answered : library.serveUnlessFailing handle request = (.ok code, after)) : code ≠ 0 := by
    unfold serveUnlessFailing takeRequestFailure at answered
    cases named : failureName? request with
    | none =>
      simp only [named, serve, dead] at answered
      cases answered
    | some name =>
      rw [named] at answered
      cases laid : library.failures.get? name with
      | some failure =>
        simp only [takeFailure, laid] at answered
        cases answered
        exact fun zero => fail name (zero ▸ laid)
      | none =>
        simp only [takeFailure_of_none laid, serve, dead] at answered
        cases answered
  -- Two kinds of requests are refused outright, and a release is counted first.
  unfold Library.request at answered
  split at answered
  · cases answered
  · rw [dead] at answered
    cases answered
  · exact unlessFailing { library with releases := library.releases + 1 } fail dead answered
  · exact unlessFailing library fail dead answered

namespace Tells

variable {note : Surroundings → Record → Request → List ε} {told : List ε → Record → Prop}
  {library after : Library} {past more : Handle → List ε}

theorem of_kept (tells : library.Tells told past) (records : after.records = library.records)
    (number : after.nextHandle = library.nextHandle) (spends : Spends library after) :
    after.Tells told past where
  told handle record found := by
    rw [record?, records] at found
    exact tells.told handle record found
  unborn handle above := tells.unborn handle (number ▸ above)
  numbered handle alive := by
    rw [isLive, record?, records] at alive
    rw [number]
    exact tells.numbered handle alive
  failuresFail call zero := tells.failuresFail call (spends call 0 zero)

theorem of_same (tells : library.Tells told past) (same : ∀ handle, more handle = past handle) :
    library.Tells told more := by
  rw [show more = past from funext same]
  exact tells

/-- At the start nothing is live, and nothing has been noted. -/
theorem initial : ({} : Library).Tells told fun _ => [] where
  told _ _ found := by cases found
  unborn _ _ := rfl
  numbered _ alive := by cases alive
  failuresFail _ laid := by cases laid

/-- What is noted on a live handle is noted on none that is still to come. -/
theorem unborn_append (tells : library.Tells told past) {handle : Handle}
    (live : library.isLive handle = true) (added : List ε) (other : Handle)
    (above : library.nextHandle ≤ other.number) :
    past other ++ (if other = handle then added else []) = [] := by
  have distinct : other ≠ handle := fun same =>
    absurd (tells.numbered handle live) (Nat.not_lt.mpr (same ▸ above))
  rw [if_neg distinct, List.append_nil]
  exact tells.unborn other above

/-- A live handle goes on with a record that what is added tells as well. -/
theorem insert (tells : library.Tells told past) {handle : Handle} {changed : Record} {added : List ε}
    (live : library.isLive handle = true) (holds : told (past handle ++ added) changed) :
    Tells told { library with records := library.records.insert handle.number changed }
      fun other => past other ++ if other = handle then added else [] where
  told other kept found := by
    rw [record?, Table.get?_insert] at found
    split at found
    next same =>
      have same : other = handle := congrArg Handle.mk same
      cases found
      rw [if_pos same, same]
      exact holds
    next distinct =>
      have distinct : other ≠ handle := fun same => distinct (congrArg Handle.number same)
      rw [if_neg distinct, List.append_nil]
      exact tells.told other kept found
  unborn := tells.unborn_append live added
  numbered other alive := by
    by_cases same : other = handle
    · exact same ▸ tells.numbered handle live
    · have distinct := Handle.number_ne same
      simp only [isLive, record?, Table.get?_insert, distinct, if_false] at alive
      exact tells.numbered other alive
  failuresFail := tells.failuresFail

/-- A handle that is released tells nothing any more, whatever is added. -/
theorem erase (tells : library.Tells told past) {handle : Handle}
    (live : library.isLive handle = true) (added : List ε) :
    Tells told { library with records := library.records.erase handle.number }
      fun other => past other ++ if other = handle then added else [] where
  told other record found := by
    rw [record?, Table.get?_erase] at found
    split at found
    · cases found
    next distinct =>
      have distinct : other ≠ handle := fun same => distinct (congrArg Handle.number same)
      rw [if_neg distinct, List.append_nil]
      exact tells.told other record found
  unborn := tells.unborn_append live added
  numbered other alive := by
    obtain ⟨record, found⟩ := Option.isSome_iff_exists.mp alive
    exact tells.numbered other (isLive_of_found (Table.get?_of_erase found))
  failuresFail := tells.failuresFail

theorem failNext (tells : library.Tells told past) (call : String) {code : Int32} (honest : code ≠ 0) :
    (library.failNext call code).Tells told past where
  told := tells.told
  unborn := tells.unborn
  numbered := tells.numbered
  failuresFail other laid := by
    rw [Library.failNext, Table.get?_insert] at laid
    split at laid
    · cases laid
      exact honest rfl
    · exact tells.failuresFail other laid

/-- A request on a dead handle changes nothing that is told. -/
theorem request_dead (tells : library.Tells told past) {handle : Handle}
    (dead : library.record? handle = none) (request : Request) :
    (library.request handle request).2.Tells told past := by
  obtain ⟨_, _, _, left⟩ := library.request_frame handle request
  have number : (library.request handle request).2.nextHandle = library.nextHandle := by rw [left]
  exact tells.of_kept (request_records_of_dead dead request) number
    (library.request_spends handle request)

section

variable (telling : Record.Telling note told)
include telling

/-- What a request on a live handle leaves: what was noted for it, if it was granted, is told by that
handle. -/
theorem served (tells : library.Tells told past) {handle : Handle} {record : Record} {request : Request}
    {code : Int32} (found : library.record? handle = some record)
    (serves : Serves library handle record request code after) :
    after.Tells told fun other =>
      past other ++ library.notes note other (.request handle request) code := by
  have live : library.isLive handle = true := isLive_of_found found
  have charges := Keeps.charge library handle request
  have charged : (library.charge request).Tells told past :=
    tells.of_kept (charge_records library request) charges.nextHandle charges.spends
  have failed (failed : code ≠ 0) : (library.charge request).Tells told fun other =>
      past other ++ library.notes note other (.request handle request) code :=
    charged.of_same fun other => by rw [notes, if_neg fun both => failed both.2, List.append_nil]
  cases serves with
  | failed pending => exact failed fun zero => tells.failuresFail.pending?_ne (zero ▸ pending)
  | refused pending refused => exact failed (Record.serve_refused refused)
  | @served changed pending served =>
    let added := if answerCode record request = 0 then note library.surroundings record request else []
    have noted (other : Handle) : library.notes note other (.request handle request)
        (answerCode record request) = if other = handle then added else [] := by
      simp only [notes, found, Option.map_some, Option.getD_some, added, eq_comm (a := handle)]
      split <;> simp_all
    have alive : (library.charge request).isLive handle = true :=
      isLive_of_found ((library.record?_charge request handle).trans found)
    have holds : told (past handle ++ added) changed := by
      by_cases granted : answerCode record request = 0
      · rw [show added = _ from if_pos granted]
        exact telling.serve _ record changed _ request served (tells.told handle record found)
      · -- Only the question for the flag answers another code, and it leaves the record.
        rw [show added = [] from if_neg granted, List.append_nil]
        cases request with
        | isMounted =>
          cases served
          exact tells.told handle record found
        | _ => exact absurd rfl granted
    -- A release ends the handle, and anything else leaves it a changed record.
    refine of_same ?_ fun other => congrArg (past other ++ ·) (noted other)
    by_cases ends : request = .release
    · subst ends
      exact charged.erase alive added
    · have settled : (library.charge request).settle handle request changed =
          { library.charge request with
            records := (library.charge request).records.insert handle.number changed } := by
        cases request with
        | release => exact absurd rfl ends
        | _ => rfl
      rw [settled]
      exact charged.insert alive holds

/-- What is made has no past, and tells nothing yet. -/
theorem newHandle (tells : library.Tells told past) (clientId : Option String) (cluster : Option Nat) :
    (library.newHandle (.new clientId cluster)).2.Tells told past where
  told other record found := by
    simp only [Library.newHandle, record?, Table.get?_insert] at found
    split at found
    next same =>
      cases found
      rw [tells.unborn other (Nat.le_of_eq same.symm)]
      exact telling.new clientId cluster
    · exact tells.told other record found
  unborn other above := tells.unborn other (Nat.le_of_succ_le above)
  numbered := tells.numbered.newHandle _
  failuresFail := tells.failuresFail

theorem setMountedFlag (tells : library.Tells told past) (handle : Handle) (mounted : Bool) :
    (library.setMountedFlag handle mounted).Tells told past where
  told other record found := by
    rw [record?, Library.setMountedFlag, Table.get?_modify] at found
    split at found
    next same =>
      obtain ⟨earlier, present, rfl⟩ := Option.map_eq_some_iff.mp found
      have same : handle = other := congrArg Handle.mk same.symm
      exact telling.flag _ earlier mounted (tells.told other earlier (same ▸ present))
    · exact tells.told other record found
  unborn := tells.unborn
  numbered other alive := tells.numbered other (library.isLive_setMountedFlag handle other mounted ▸ alive)
  failuresFail := tells.failuresFail

/-- A call that is no request changes nothing that is told. -/
theorem answer_unasked (tells : library.Tells told past) {call : Call}
    (other : ∀ holder request, call ≠ .request holder request) :
    (answer call library).2.Tells told past := by
  have created (name : String) (clientId : Option String) (cluster : Option Nat) :
      (library.create name (.new clientId cluster)).2.Tells told past := by
    have taken : (library.takeFailure name).2.Tells told past :=
      tells.of_kept rfl rfl fun _ _ => Table.get?_of_erase
    unfold create takeFailure
    cases library.failures.get? name with
    | some code => exact taken
    | none => exact newHandle telling taken clientId cluster
  cases call with
  | create id | createFromCluster cluster => exact created _ _ _
  | request holder request => exact absurd rfl (other holder request)
  | readOption handle key buffer | currentDir handle =>
    simp only [answer, look]
    split <;> exact tells
  | command handle command =>
    obtain ⟨received, live, recorded⟩ := library.command_frame handle command
    rw [answer, recorded]
    exact tells.of_kept rfl rfl fun _ _ found => found
  | freeBuffer part id =>
    obtain ⟨live, freed, returned⟩ := library.free_frame id
    rw [answer, returned]
    exact tells.of_kept rfl rfl fun _ _ found => found
  | version => exact tells

/-- Whatever is called and answered, what was told is told, and what is noted now besides. -/
theorem answered (tells : library.Tells told past) {call : Call} {reply : call.Reply}
    (answered : answer call library = (.ok reply, after)) :
    after.Tells told fun handle => past handle ++ library.notes note handle call reply := by
  by_cases asked : ∃ handle request, call = .request handle request
  · obtain ⟨handle, request, rfl⟩ := asked
    change library.request handle request = _ at answered
    cases found : library.record? handle with
    | none =>
      have failed := tells.failuresFail.failed_of_dead found answered
      have kept := tells.request_dead found request
      rw [answered] at kept
      refine kept.of_same fun other => ?_
      rw [notes, if_neg fun both => failed both.2, List.append_nil]
    | some record =>
      by_cases rooted : ∃ root, request = .mount (some root)
      · obtain ⟨root, rfl⟩ := rooted
        cases answered
      · obtain ⟨code, left, own, serves⟩ :=
          request_serves request found fun root same => rooted ⟨root, same⟩
        cases own.symm.trans answered
        exact served telling tells found serves
  · have other (handle : Handle) (request : Request) : call ≠ .request handle request :=
      fun is => asked ⟨handle, request, is⟩
    have kept := answer_unasked telling tells other
    rw [answered] at kept
    refine kept.of_same fun handle => ?_
    rw [notes_eq_nil fun holder request is => absurd is (other holder request), List.append_nil]

/-- A call that is refused changes nothing that is told. -/
theorem refused (tells : library.Tells told past) {call : Call} {misuse : Misuse}
    (refused : answer call library = (.error misuse, after)) : after.Tells told past := by
  by_cases asked : ∃ handle request, call = .request handle request
  · obtain ⟨handle, request, rfl⟩ := asked
    change library.request handle request = _ at refused
    cases found : library.record? handle with
    | none =>
      have kept := tells.request_dead found request
      rwa [refused] at kept
    | some record =>
      by_cases rooted : ∃ root, request = .mount (some root)
      · obtain ⟨root, rfl⟩ := rooted
        cases refused
        exact tells
      · obtain ⟨code, left, own, serves⟩ :=
          request_serves request found fun root same => rooted ⟨root, same⟩
        cases own.symm.trans refused
  · have kept := answer_unasked telling tells fun handle request is => asked ⟨handle, request, is⟩
    rwa [refused] at kept

/-- A call for which nothing can be noted leaves what is told, whatever becomes of it. -/
theorem silent (tells : library.Tells told past) {call : Call}
    (silent : ∀ holder request, call = .request holder request →
      ∀ surroundings record, note surroundings record request = []) :
    (answer call library).2.Tells told past := by
  cases result : (answer call library).1 with
  | error misuse => exact refused telling tells (Prod.ext result rfl)
  | ok reply =>
    refine (answered telling tells (Prod.ext result rfl)).of_same fun handle => ?_
    rw [notes_eq_nil silent, List.append_nil]

end

end Tells

end Library

end InMemory

/-- A call that asks for nothing: none for which a record has anything to grant. -/
def Call.Unasking : Call → Prop
  | .request _ asked => asked = .isMounted
  | _ => True

/-- An operation is one request, or it makes none that asks for anything and has no other result than a
value or an error. -/
theorem Mount.concludes_or_unasking (mount : Mount) (operation : Operation) :
    (∃ request, operation.Asks request ∧ mount.Concludes operation request) ∨
      (mount.perform operation).Within Call.Unasking fun result => result.1 ≠ .ok .nothing := by
  cases mount.course operation with
  | concludes asks concludes => exact .inl ⟨_, asks, concludes⟩
  | rejected rejected is =>
    rw [is]
    refine .inr fun granted => ?_
    cases granted
  | @reads key name spelled is =>
    have read : (mount.readOption name bufferGrowths firstBuffer).Within Call.Unasking fun _ => True :=
      (mount.readOption_opensWith name _ _ fun _ => trivial).within trivial fun _ _ _ => trivial
    rw [perform, is]
    refine .inr ((Program.within_bind ..).mpr (read.mono fun outcome _ => ?_))
    cases outcome <;> simp [Except.map]
  | @sends line command some reads is =>
    have sent : (mount.send line.target command).Within Call.Unasking fun _ => True :=
      mount.send_within line.target command trivial fun _ _ => trivial
    rw [perform, is]
    refine .inr ((Program.within_bind ..).mpr ((Program.within_bind ..).mpr (sent.mono fun _ _ => ?_)))
    simp [Except.map]
  | isMounted =>
    have told : mount.isMounted.Within Call.Unasking fun _ => True := mount.isMounted_within rfl
    exact .inr ((Program.within_bind ..).mpr (told.mono fun _ _ => by simp))
  | currentDir => exact .inr ⟨trivial, fun _ => by simp⟩

end CephMount
