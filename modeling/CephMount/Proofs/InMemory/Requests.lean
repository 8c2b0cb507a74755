import CephMount.InMemory.Library
import CephMount.Proofs.Mount.Calls

/-! What one request on a live handle does to the in-memory library.

A failure that is laid up answers in the request's place; otherwise the record refuses or serves it.
What a quiet call keeps is stated once, as a relation between the library before and after it.
-/

set_option autoImplicit false

namespace CephMount.InMemory

theorem Handle.number_ne {handle other : Handle} (apart : other ≠ handle) :
    other.number ≠ handle.number :=
  fun same => apart (congrArg Handle.mk same)

namespace Library

def isLive (library : Library) (handle : Handle) : Bool := (library.record? handle).isSome

def discipline : Discipline Library where
  boundary := answer
  allows call library := ∀ handle, call.handle? = some handle → library.isLive handle = true

def pending? (library : Library) (request : Request) : Option Int32 :=
  (library.takeRequestFailure request).1

/-- The library after a request that had no effect of its own: its failure is taken, and a release
is counted. -/
def charge (library : Library) (request : Request) : Library :=
  match request with
  | .release => ({ library with releases := library.releases + 1 }.takeRequestFailure .release).2
  | _ => (library.takeRequestFailure request).2

/-- The library after a request that the handle's record was served with. -/
def settle (library : Library) (handle : Handle) (request : Request) (after : Record) : Library :=
  { library with records :=
    match request with
    | .release => library.records.erase handle.number
    | _ => library.records.insert handle.number after }

variable {library : Library} {handle : Handle} {record : Record} {request : Request}

/-- Everything that can become of a request on a live handle. -/
inductive Serves (library : Library) (handle : Handle) (record : Record) (request : Request) :
    Int32 → Library → Prop where
  | failed {code : Int32} : library.pending? request = some code →
      Serves library handle record request code (library.charge request)
  | refused {errno : Errno} : library.pending? request = none →
      record.serve library.surroundings request = .error errno →
      Serves library handle record request errno.code (library.charge request)
  | served {after : Record} : library.pending? request = none →
      record.serve library.surroundings request = .ok after →
      Serves library handle record request (answerCode record request)
        ((library.charge request).settle handle request after)

@[simp] theorem charge_records (library : Library) (request : Request) :
    (library.charge request).records = library.records := by
  cases request <;> rfl

theorem record?_charge (library : Library) (request : Request) (handle : Handle) :
    (library.charge request).record? handle = library.record? handle :=
  congrArg (Table.get? · handle.number) (charge_records library request)

@[simp] theorem charge_surroundings (library : Library) (request : Request) :
    (library.charge request).surroundings = library.surroundings := by
  cases request <;> rfl

/-- On a live handle nothing comes before the failure that is laid up. -/
theorem request_eq (live : library.record? handle = some record)
    (rooted : ∀ root, request ≠ .mount (some root)) :
    library.request handle request =
      match library.pending? request with
      | some code => (.ok code, library.charge request)
      | none => (library.charge request).serve handle request := by
  -- Each kind of request comes to this after a check of its own, which a live handle passes.
  have unlessFailing (library : Library) (request : Request) :
      library.serveUnlessFailing handle request =
        match (library.takeRequestFailure request).1 with
        | some code => (.ok code, (library.takeRequestFailure request).2)
        | none => (library.takeRequestFailure request).2.serve handle request := by
    unfold serveUnlessFailing
    rcases library.takeRequestFailure request with ⟨_ | code, after⟩ <;> rfl
  cases request with
  | mount root =>
    cases root with
    | none => exact unlessFailing library (.mount none)
    | some root => exact absurd rfl (rooted root)
  | readConfig list =>
    rw [Library.request, live, if_neg (by simp), unlessFailing]
    rfl
  | isMounted => exact unlessFailing library .isMounted
  | release => exact unlessFailing { library with releases := library.releases + 1 } .release
  | _ => exact unlessFailing library _

theorem request_serves (request : Request) (live : library.record? handle = some record)
    (rooted : ∀ root, request ≠ .mount (some root)) :
    ∃ code after, library.request handle request = (.ok code, after) ∧
      Serves library handle record request code after := by
  rw [request_eq live rooted]
  cases pending : library.pending? request with
  | some code => exact ⟨_, _, rfl, .failed pending⟩
  | none =>
    simp only [serve, record?_charge, live]
    cases served : record.serve (library.charge request).surroundings request with
    | error errno => exact ⟨_, _, rfl, .refused pending (charge_surroundings library request ▸ served)⟩
    | ok after => exact ⟨_, _, rfl, .served pending (charge_surroundings library request ▸ served)⟩

theorem pending?_eq (library : Library) (request : Request) :
    library.pending? request = (failureName? request).bind library.failures.get? := by
  unfold pending? takeRequestFailure
  cases failureName? request <;> rfl

theorem charge_failures (library : Library) (request : Request) :
    (library.charge request).failures =
      match failureName? request with
      | none => library.failures
      | some name => library.failures.erase name := by
  cases request <;> rfl

/-- A request takes the failure of its own name and no other. -/
theorem Serves.pending? {code : Int32} {after : Library}
    (serves : Serves library handle record request code after) (other : Request) :
    after.pending? other =
      if failureName? other = failureName? request then none else library.pending? other := by
  have taken : after.failures = (library.charge request).failures := by cases serves <;> rfl
  rw [pending?_eq, pending?_eq, taken, charge_failures]
  cases failureName? request with
  | none => cases failureName? other <;> rfl
  | some name =>
    cases failureName? other with
    | none => rfl
    | some another => simp

/-- A request changes records, takes failures and counts releases, and does nothing else. -/
theorem request_frame (library : Library) (handle : Handle) (request : Request) :
    ∃ records failures releases,
      (library.request handle request).2 = { library with records, failures, releases } := by
  have taken (library : Library) :
      ∃ failures, (library.takeRequestFailure request).2 = { library with failures } := by
    unfold takeRequestFailure
    split
    · exact ⟨_, rfl⟩
    · exact ⟨_, rfl⟩
  have served (library : Library) :
      ∃ records, (library.serve handle request).2 = { library with records } := by
    unfold serve
    split
    · exact ⟨_, rfl⟩
    · split
      · exact ⟨_, rfl⟩
      · exact ⟨_, rfl⟩
  have unlessFailing (library : Library) :
      ∃ records failures,
        (library.serveUnlessFailing handle request).2 = { library with records, failures } := by
    obtain ⟨failures, same⟩ := taken library
    unfold serveUnlessFailing
    split
    next code after took => exact ⟨library.records, failures, by rw [← same, took]⟩
    next after took =>
      rw [took] at same
      obtain ⟨records, left⟩ := served after
      exact ⟨records, failures, by rw [left, show after = _ from same]⟩
  unfold Library.request
  split
  · exact ⟨_, _, _, rfl⟩
  · split
    · exact ⟨_, _, _, rfl⟩
    · obtain ⟨records, failures, left⟩ := unlessFailing library
      exact ⟨records, failures, library.releases, left⟩
  · obtain ⟨records, failures, left⟩ :=
      unlessFailing { library with releases := library.releases + 1 }
    exact ⟨records, failures, library.releases + 1, left⟩
  · obtain ⟨records, failures, left⟩ := unlessFailing library
    exact ⟨records, failures, library.releases, left⟩

/-- A command is recorded, and buffers may go out with the reply. -/
theorem command_frame (library : Library) (handle : Handle) (command : Command) :
    ∃ received liveBuffers, (library.command handle command).2 =
      { library with commands := library.commands ++ [received], liveBuffers } := by
  unfold Library.command
  dsimp only
  split
  · exact ⟨_, _, rfl⟩
  · simp only [allocate]
    -- Each part of the reply takes a buffer unless it is empty.
    split <;> split <;> exact ⟨_, _, rfl⟩

theorem free_frame (library : Library) (id : BufferId) :
    ∃ liveBuffers freedBuffers,
      (library.free id).2 = { library with liveBuffers, freedBuffers } := by
  unfold free
  split
  · split
    · exact ⟨_, _, rfl⟩
    · exact ⟨_, _, rfl⟩
  · exact ⟨_, _, rfl⟩

theorem create_frame (library : Library) (call : String) (record : Record) :
    ∃ records failures nextHandle,
      (library.create call record).2 = { library with records, failures, nextHandle } := by
  unfold create takeFailure
  cases library.failures.get? call with
  | some code => exact ⟨_, _, _, rfl⟩
  | none => exact ⟨_, _, _, rfl⟩

/-- No call changes the surroundings or the scripts. -/
theorem answer_frame (call : Call) (library : Library) :
    ∃ nextHandle records failures commands liveBuffers freedBuffers releases,
      (answer call library).2 = { library with
        nextHandle, records, failures, commands, liveBuffers, freedBuffers, releases } := by
  cases call with
  | create id | createFromCluster cluster =>
    obtain ⟨records, failures, nextHandle, made⟩ := library.create_frame _ _
    rw [answer, made]
    exact ⟨_, _, _, _, _, _, _, rfl⟩
  | request handle request =>
    obtain ⟨records, failures, releases, left⟩ := library.request_frame handle request
    rw [answer, left]
    exact ⟨_, _, _, _, _, _, _, rfl⟩
  | readOption handle key buffer | currentDir handle =>
    simp only [answer, look]
    split <;> exact ⟨_, _, _, _, _, _, _, rfl⟩
  | command handle command =>
    obtain ⟨received, live, recorded⟩ := library.command_frame handle command
    rw [answer, recorded]
    exact ⟨_, _, _, _, _, _, _, rfl⟩
  | freeBuffer part id =>
    obtain ⟨live, freed, returned⟩ := library.free_frame id
    rw [answer, returned]
    exact ⟨_, _, _, _, _, _, _, rfl⟩
  | version => exact ⟨_, _, _, _, _, _, _, rfl⟩

/-! What a use of a handle keeps. -/

/-- Failures are taken, and none is laid up. -/
def Spends (before after : Library) : Prop :=
  ∀ call code, after.failures.get? call = some code → before.failures.get? call = some code

theorem Spends.trans {first second third : Library} (left : Spends first second)
    (right : Spends second third) : Spends first third :=
  fun call code found => left call code (right call code found)

theorem Spends.pending {before after : Library} (spends : Spends before after) {call : String}
    (pending : (after.failures.get? call).isSome) : (before.failures.get? call).isSome := by
  obtain ⟨code, found⟩ := Option.isSome_iff_exists.mp pending
  exact Option.isSome_iff_exists.mpr ⟨code, spends call code found⟩

/-- The handle stays live or dead, all that belongs to others stays, and no failure is laid up. -/
structure Keeps (handle : Handle) (before after : Library) : Prop where
  nextHandle : after.nextHandle = before.nextHandle
  others : ∀ other, other ≠ handle → after.record? other = before.record? other
  live : after.isLive handle = before.isLive handle
  count : after.liveHandles = before.liveHandles
  buffers : after.liveBuffers = before.liveBuffers
  spends : Spends before after

/-- Whether the handle is mounted, which a dead one is not. -/
def flag? (library : Library) (handle : Handle) : Option Bool :=
  (library.record? handle).map Record.mounted

theorem isLive_setMountedFlag (library : Library) (handle other : Handle) (mounted : Bool) :
    (library.setMountedFlag handle mounted).isLive other = library.isLive other := by
  unfold isLive record? setMountedFlag
  rw [Table.get?_modify]
  split
  next same => rw [same, Option.isSome_map]
  · rfl

namespace Keeps

theorem refl (handle : Handle) (library : Library) : Keeps handle library library :=
  ⟨rfl, fun _ _ => rfl, rfl, rfl, rfl, fun _ _ found => found⟩

theorem trans {first second third : Library} (left : Keeps handle first second)
    (right : Keeps handle second third) : Keeps handle first third where
  nextHandle := right.nextHandle.trans left.nextHandle
  others other apart := (right.others other apart).trans (left.others other apart)
  live := right.live.trans left.live
  count := right.count.trans left.count
  buffers := right.buffers.trans left.buffers
  spends := left.spends.trans right.spends

theorem charge (library : Library) (handle : Handle) (request : Request) :
    Keeps handle library (library.charge request) := by
  refine ⟨?_, fun other _ => ?_, ?_, ?_, ?_, ?_⟩
  case refine_6 =>
    cases request with
    | isMounted => exact fun _ _ found => found
    | _ => exact fun _ _ => Table.get?_of_erase
  all_goals cases request <;> rfl

theorem insert (live : library.record? handle = some record) (after : Record) :
    Keeps handle library { library with records := library.records.insert handle.number after } where
  nextHandle := rfl
  others other apart := by
    have distinct := Handle.number_ne apart
    simp [record?, distinct]
  live := by simp [isLive, record?, show library.records.get? handle.number = _ from live]
  count := Table.size_insert_of_contains _ (by
    rw [Table.contains, show library.records.get? handle.number = _ from live]
    rfl)
  buffers := rfl
  spends _ _ found := found

end Keeps

theorem Serves.keeps {code : Int32} {after : Library}
    (serves : Serves library handle record request code after)
    (live : library.record? handle = some record) (kept : request ≠ .release) :
    Keeps handle library after := by
  cases serves with
  | failed _ | refused _ _ => exact .charge library handle request
  | @served changed _ _ =>
    have charged := (library.record?_charge request handle).trans live
    have settled : (library.charge request).settle handle request changed =
        { library.charge request with
          records := (library.charge request).records.insert handle.number changed } := by
      cases request with
      | release => exact absurd rfl kept
      | _ => rfl
    rw [settled]
    exact (Keeps.charge library handle request).trans (Keeps.insert charged changed)

end Library

/-- What is served on a mounted handle alone was served. -/
theorem Record.of_whenMounted {record after : Record} {result : Except Errno Record}
    (granted : record.whenMounted result = .ok after) : result = .ok after := by
  unfold whenMounted at granted
  split at granted
  · exact granted
  · cases granted

/-- A configuration that is found changes nothing. -/
theorem Record.of_readConfig {record after : Record} {surroundings : Surroundings}
    {list : Option Terminated} (granted : record.readConfig surroundings list = .ok after) :
    after = record := by
  unfold readConfig at granted
  split at granted
  · split at granted
    · cases granted
      rfl
    · cases granted
  · split at granted
    · cases granted
      rfl
    · cases granted

/-- Requests about the file system, which only a mounted handle serves. -/
def needsMount : Request → Bool
  | .syncFs | .chdir _ | .mkdir _ _ | .rmdir _ | .chmod _ _ | .chown _ _ _ => true
  | _ => false

/-- A request about the file system changes the directories, where the handle stands among them and
how often it was synced, and nothing else. -/
theorem Record.serve_frame {record after : Record} {surroundings : Surroundings} {request : Request}
    (needs : needsMount request = true)
    (served : record.serve surroundings request = .ok after) :
    ∃ workingDir directories syncs, after = { record with workingDir, directories, syncs } := by
  -- Whatever is refused leaves no record, so only the branches that are served remain.
  cases request with
  | syncFs => cases of_whenMounted served; exact ⟨_, _, _, rfl⟩
  | chdir path =>
    have entered := of_whenMounted served
    unfold Record.enter at entered
    repeat' split at entered
    all_goals cases entered
    exact ⟨_, _, _, rfl⟩
  | mkdir path mode =>
    have made := of_whenMounted served
    unfold Record.makeDir at made
    repeat' split at made
    all_goals cases made
    exact ⟨_, _, _, rfl⟩
  | rmdir path =>
    have removed := of_whenMounted served
    unfold Record.removeDir at removed
    repeat' split at removed
    all_goals cases removed
    exact ⟨_, _, _, rfl⟩
  | chmod path mode | chown path uid gid =>
    have changed := of_whenMounted served
    unfold Record.setAttributes at changed
    split at changed
    all_goals cases changed
    exact ⟨_, _, _, rfl⟩
  | _ => cases needs

/-- No refusal is an error of code zero, which would say success. -/
theorem Record.serve_refused {record : Record} {surroundings : Surroundings} {request : Request}
    {errno : Errno} (refused : record.serve surroundings request = .error errno) : errno.code ≠ 0 := by
  have mounted {result : Except Errno Record} (own : result = .error errno → errno.code ≠ 0)
      (refused : record.whenMounted result = .error errno) : errno.code ≠ 0 := by
    unfold whenMounted at refused
    split at refused
    · exact own refused
    · cases refused
      decide
  have set {path : Path} {change : Attributes → Attributes}
      (refused : record.setAttributes path change = .error errno) : errno.code ≠ 0 := by
    unfold setAttributes at refused
    split at refused
    all_goals cases refused
    decide
  -- Only the branches that refuse remain, and each of them names its error.
  cases request with
  | parseEnv name | setOption key value | isMounted => cases refused
  | syncFs =>
    refine mounted (fun served => ?_) refused
    cases served
  | chmod path mode | chown path uid gid => exact mounted set refused
  | readConfig list =>
    simp only [serve, readConfig] at refused
    repeat' split at refused
    all_goals cases refused
    all_goals decide
  | mount root | unmount | release =>
    simp only [serve, mount, unmount] at refused
    split at refused
    all_goals cases refused
    decide
  | chdir path | mkdir path mode | rmdir path =>
    refine mounted (fun refused => ?_) refused
    simp only [enter, makeDir, removeDir] at refused
    repeat' split at refused
    all_goals cases refused
    all_goals decide

theorem Record.serve_mounted {record after : Record} {surroundings : Surroundings}
    {request : Request} (quiet : request.changesMount = false)
    (served : record.serve surroundings request = .ok after) : after.mounted = record.mounted := by
  cases request with
  | mount root | unmount | release => cases quiet
  | readConfig list => rw [of_readConfig served]
  | parseEnv name | setOption key value | isMounted => cases served; rfl
  | _ =>
    obtain ⟨_, _, _, rfl⟩ := serve_frame rfl served
    rfl

namespace Library

variable {library : Library} {handle : Handle} {record : Record} {request : Request}

theorem Serves.flag? {code : Int32} {after : Library}
    (serves : Serves library handle record request code after)
    (live : library.record? handle = some record) (quiet : request.changesMount = false) :
    after.flag? handle = library.flag? handle := by
  cases serves with
  | failed _ | refused _ _ => simp [Library.flag?, record?]
  | @served changed _ served =>
    have same := Record.serve_mounted quiet served
    have found : ((library.charge request).settle handle request changed).record? handle = some changed := by
      cases request with
      | release => cases quiet
      | _ => simp [settle, record?]
    rw [Library.flag?, Library.flag?, found, live, Option.map_some, Option.map_some, same]

/-- A quiet call on a live handle is answered, and leaves the flag besides what every use leaves. -/
theorem answer_quiet {call : Call} (quiet : call.Quiet handle)
    (live : library.isLive handle = true) :
    ∃ reply after, answer call library = (.ok reply, after) ∧ Keeps handle library after ∧
      after.flag? handle = library.flag? handle := by
  obtain ⟨record, found⟩ := Option.isSome_iff_exists.mp live
  cases call with
  | request holder request =>
    obtain ⟨rfl, quiet⟩ := quiet
    have rooted (root : Terminated) : request ≠ .mount (some root) := fun same => by
      subst same
      cases quiet
    have kept : request ≠ .release := fun same => by
      subst same
      cases quiet
    obtain ⟨code, after, answered, serves⟩ := request_serves request found rooted
    exact ⟨code, after, answered, serves.keeps found kept, serves.flag? found quiet⟩
  | readOption holder key buffer =>
    obtain rfl := quiet
    refine ⟨record.readOption key.text buffer, library, ?_, .refl _ _, rfl⟩
    simp [answer, look, found]
  | currentDir holder =>
    obtain rfl := quiet
    refine ⟨some record.workingDir, library, ?_, .refl _ _, rfl⟩
    simp [answer, look, found]
  | _ => cases quiet

end Library

end CephMount.InMemory
