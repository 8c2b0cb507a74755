import CephMount.Proofs.InMemory.Creations
import CephMount.Proofs.InMemory.Invariants
import CephMount.Proofs.Mount.Rejection

/-! What a failure leaves of the in-memory library.

An operation fails before it calls anything, by a failure that was laid up for it, or because the
library refuses it. Only the second leaves a trace: the failure is used up. A preparation that fails
gives its handle up again.
-/

set_option autoImplicit false

namespace CephMount

open InMemory

namespace InMemory.Library

variable {library after : Library} {handle : Handle} {request : Request} {code : Int32}

/-- With nothing laid up for a call there is nothing to take. -/
theorem takeFailure_of_none {call : String} (none : library.failures.get? call = none) :
    library.takeFailure call = (.none, library) := by
  rw [takeFailure, none, Table.erase_of_get?_eq_none none]

/-- A code that says failure is the one that was laid up, which is taken, or it is a refusal, which
leaves everything. -/
theorem serveUnlessFailing_fails {name : String} (named : failureName? request = some name)
    (answered : library.serveUnlessFailing handle request = (.ok code, after)) (failed : code ≠ 0) :
    (library.failures.get? name = some code ∧
        after = { library with failures := library.failures.erase name }) ∨
      library.failures.get? name = none ∧ after = library := by
  unfold serveUnlessFailing takeRequestFailure at answered
  rw [named] at answered
  cases pending : library.failures.get? name with
  | some laid =>
    simp only [takeFailure, pending] at answered
    cases answered
    exact .inl ⟨rfl, rfl⟩
  | none =>
    simp only [takeFailure_of_none pending] at answered
    refine .inr ⟨rfl, ?_⟩
    unfold serve at answered
    split at answered
    · cases answered
    · split at answered
      · cases answered
        rfl
      · -- What was served answers zero, except for the flag, for which no failure can be laid up.
        cases answered
        cases request with
        | isMounted => cases named
        | _ => exact absurd rfl failed

theorem request_fails {name : String} (named : failureName? request = some name)
    (kept : request ≠ .release) (answered : library.request handle request = (.ok code, after))
    (failed : code ≠ 0) :
    (library.failures.get? name = some code ∧
        after = { library with failures := library.failures.erase name }) ∨
      library.failures.get? name = none ∧ after = library := by
  unfold Library.request at answered
  split at answered
  · cases answered
  · split at answered
    · cases answered
    · exact serveUnlessFailing_fails named answered failed
  · exact absurd rfl kept
  · exact serveUnlessFailing_fails named answered failed

end InMemory.Library

/-! What every call keeps, and what a creation that fails leaves. -/

namespace InMemory.Library

variable {library after : Library} {handle other : Handle}

/-- No request makes a handle live. -/
theorem request_isLive {request : Request}
    (alive : (library.request handle request).2.isLive other = true) : library.isLive other = true := by
  have of_records {before after : Library} (same : after.records = before.records) :
      after.isLive other = before.isLive other :=
    congrArg (fun records : Table Nat Record => (records.get? other.number).isSome) same
  cases found : library.record? handle with
  | none => exact of_records (request_records_of_dead found request) ▸ alive
  | some record =>
    by_cases rooted : ∃ root, request = .mount (some root)
    · obtain ⟨root, rfl⟩ := rooted
      exact alive
    · obtain ⟨code, after, answered, serves⟩ :=
        request_serves request found fun root same => rooted ⟨root, same⟩
      rw [answered] at alive
      by_cases ends : request = .release
      · subst ends
        cases serves with
        | failed _ | refused _ _ => exact of_records (charge_records library .release) ▸ alive
        | served _ _ =>
          obtain ⟨record, stays⟩ := Option.isSome_iff_exists.mp alive
          exact Option.isSome_iff_exists.mpr ⟨record, Table.get?_of_erase stays⟩
      · have keeps := serves.keeps found ends
        by_cases same : other = handle
        · rw [same, isLive, found]
          rfl
        · exact isLive_of_same keeps.others same ▸ alive

theorem Numbered.newHandle (numbered : library.Numbered) (record : Record) :
    (library.newHandle record).2.Numbered := by
  intro other alive
  simp only [Library.newHandle, isLive, record?, Table.get?_insert] at alive
  split at alive
  next same => exact same ▸ Nat.lt_succ_self _
  · exact Nat.lt_succ_of_lt (numbered other alive)

/-- Handles stay numbered below the next one, whatever is called. -/
theorem answer_numbered (call : Call) (numbered : library.Numbered) :
    (answer call library).2.Numbered := by
  have created (name : String) (record : Record) : (library.create name record).2.Numbered := by
    unfold create takeFailure
    cases library.failures.get? name with
    | some code => exact numbered
    | none => exact numbered.newHandle record
  cases call with
  | create id | createFromCluster cluster => exact created _ _
  | request handle request =>
    obtain ⟨records, failures, releases, left⟩ := library.request_frame handle request
    have same : (answer (.request handle request) library).2.nextHandle = library.nextHandle := by
      rw [answer, left]
    intro other alive
    rw [same]
    exact numbered other (request_isLive alive)
  | readOption handle key buffer | currentDir handle =>
    simp only [answer, look]
    split <;> exact numbered
  | command handle command =>
    obtain ⟨received, live, recorded⟩ := library.command_frame handle command
    rw [answer, recorded]
    exact numbered
  | freeBuffer part id =>
    obtain ⟨live, freed, returned⟩ := library.free_frame id
    rw [answer, returned]
    exact numbered
  | version => exact numbered

theorem request_spends (library : Library) (handle : Handle) (request : Request) :
    Spends library (library.request handle request).2 := by
  have taken (library : Library) : Spends library (library.takeRequestFailure request).2 := by
    unfold takeRequestFailure
    split
    · exact fun _ _ found => found
    · exact fun _ _ => Table.get?_of_erase
  have served (library : Library) :
      (library.serve handle request).2.failures = library.failures := by
    unfold serve
    split
    · rfl
    · split <;> rfl
  have unlessFailing (library : Library) :
      Spends library (library.serveUnlessFailing handle request).2 := by
    have took := taken library
    unfold serveUnlessFailing
    split
    next code after same =>
      rw [same] at took
      exact took
    next after same =>
      rw [same] at took
      intro call code found
      rw [served] at found
      exact took call code found
  unfold Library.request
  split
  · exact fun _ _ found => found
  · split
    · exact fun _ _ found => found
    · exact unlessFailing library
  · exact unlessFailing { library with releases := library.releases + 1 }
  · exact unlessFailing library

/-- No call lays a failure up. -/
theorem answer_spends (call : Call) (library : Library) : Spends library (answer call library).2 := by
  have created (name : String) (record : Record) : Spends library (library.create name record).2 := by
    unfold create takeFailure
    cases library.failures.get? name with
    | some code => exact fun _ _ => Table.get?_of_erase
    | none => exact fun _ _ => Table.get?_of_erase
  cases call with
  | create id | createFromCluster cluster => exact created _ _
  | request handle request => exact library.request_spends handle request
  | readOption handle key buffer | currentDir handle =>
    simp only [answer, look]
    split <;> exact fun _ _ found => found
  | command handle command =>
    obtain ⟨received, live, recorded⟩ := library.command_frame handle command
    rw [answer, recorded]
    exact fun _ _ found => found
  | freeBuffer part id =>
    obtain ⟨live, freed, returned⟩ := library.free_frame id
    rw [answer, returned]
    exact fun _ _ found => found
  | version => exact fun _ _ found => found

theorem records_eq {before after : Library}
    (same : ∀ handle, after.record? handle = before.record? handle) : after.records = before.records :=
  Table.ext_get? fun number => same ⟨number⟩

/-- A creation that fails leaves the records that there were, unless a release was to fail. -/
theorem Created.records_of_error {before after : Library} {entries : List Entry} {error : Error}
    (created : Created before entries (.error error) after) (numbered : before.Numbered)
    (releases : before.failures.get? "release" = none) : after.records = before.records := by
  refine records_eq fun handle => ?_
  rcases created with ⟨keeps, -⟩ | ⟨new, creates, -, stays⟩
  · -- Any other handle will do to see that this one is untouched.
    have other : handle ≠ ⟨handle.number + 1⟩ := fun same =>
      Nat.succ_ne_self _ (congrArg Handle.number same).symm
    exact (keeps _).others handle other
  · by_cases same : handle = new
    · subst same
      have unborn : before.record? handle = none := by
        cases found : before.record? handle with
        | none => rfl
        | some record =>
          have given := numbered handle (isLive_of_found found)
          rw [creates.number] at given
          exact absurd given (Nat.lt_irrefl _)
      rw [unborn]
      cases found : after.record? handle with
      | none => rfl
      | some record =>
        have pending := stays (isLive_of_found found)
        rw [pending?_eq] at pending
        simp [failureName?, Request.name, releases] at pending
    · exact creates.others handle same

end InMemory.Library

/-- All ways in which an operation fails: what it called and reported, its error, and what it leaves of
the library. -/
inductive Operation.Fails (operation : Operation) (before : Library) :
    List Entry → Error → Library → Prop where
  /-- Nothing crosses, and what is laid up for the operation stays. -/
  | rejected {error : Error} : operation.Rejected error → Fails operation before [] error before
  /-- The failure that was laid up is used up. -/
  | injected {request : Request} {code : Int32} {entries : List Entry} : operation.Asks request →
      before.failures.get? request.name = some code →
      Fails operation before entries (.library ⟨code⟩)
        { before with failures := before.failures.erase request.name }
  /-- The library refuses, and nothing was laid up for the operation. -/
  | refused {error : ErrorCode} {entries : List Entry} :
      (∀ request, operation.Asks request → before.failures.get? request.name = none) →
      Fails operation before entries (.library error) before

/-- The name of the request that a step in configuring makes, whatever its strings are. -/
def Setting.call : Setting → String
  | defaultConfig | configFile _ => "conf_read_file"
  | environment _ => "conf_parse_env"
  | option _ _ => "conf_set"

theorem Setting.Asks.name_eq {setting : Setting} {request : Request} (asks : setting.Asks request) :
    request.name = setting.call := by
  cases asks <;> rfl

/-- All requests of one operation have one name. -/
theorem Operation.Asks.name_eq {operation : Operation} {request other : Request}
    (asks : operation.Asks request) (also : operation.Asks other) : other.name = request.name := by
  cases asks with
  | configure asks =>
    cases also with
    | configure also => rw [asks.name_eq, also.name_eq]
  | @path operation _ asks =>
    cases also with
    | path also =>
      obtain ⟨path, -, rfl⟩ := asks
      obtain ⟨other, -, rfl⟩ := also
      cases operation <;> rfl
  | mount | unmount | sync => cases also; rfl

/-- A failure can be laid up for every request that an operation makes, and none gives the handle up. -/
theorem Operation.Asks.named {operation : Operation} {request : Request}
    (asks : operation.Asks request) :
    Library.failureName? request = some request.name ∧ request ≠ .release := by
  cases asks with
  | configure asks => cases asks <;> exact ⟨rfl, nofun⟩
  | @path operation _ asks =>
    obtain ⟨path, -, rfl⟩ := asks
    cases operation <;> exact ⟨rfl, nofun⟩
  | mount | unmount | sync => exact ⟨rfl, nofun⟩

/-- The call looks an option up. -/
def Call.Looks (call : Call) : Prop := ∃ handle key buffer, call = .readOption handle key buffer

/-- Looking options up leaves the library. -/
theorem Program.Within.run_looks {α : Type} {program : Program α} {post : α → Prop}
    (within : program.Within Call.Looks post) (library : Library) :
    (program.run Library.answer library).state = library := by
  have step (call : Call) (state : Library) (looks : call.Looks) (same : state = library) :
      (Library.answer call state).2 = library := by
    obtain ⟨handle, key, buffer, rfl⟩ := looks
    simp only [Library.answer, Library.look]
    split <;> exact same
  exact within.run_keeps step rfl

namespace Mount

/-- What an operation on an option that can be looked up does: it looks, and keeps the mount. -/
theorem getOption_looks (mount : Mount) {key : String} {name : Terminated}
    (is : mount.getOption key = mount.readOption name bufferGrowths firstBuffer) :
    (mount.perform (.getOption key)).Within Call.Looks fun result =>
      result.2 = mount ∧ ∀ error, result.1 = .error error → ∃ code, error = .library code := by
  have looks (buffer : Bytes) : (Call.readOption mount.handle name buffer).Looks := ⟨_, _, _, rfl⟩
  rw [perform, is]
  refine (Program.within_bind ..).mpr ?_
  refine (mount.readOption_opensWith name _ _ looks).within (looks _) fun _ outcome failed => ⟨rfl, ?_⟩
  intro error gave
  cases outcome with
  | ok value => cases gave
  | error other =>
    cases gave
    obtain ⟨code, -, is⟩ := failed error rfl
    exact ⟨⟨code⟩, is⟩

/-- An operation whose result is never an error does not fail. -/
theorem succeeds_of_within {program : Program (Outcome Answer × Mount)} {library after : Library}
    {entries : List Entry} {error : Error} {left : Mount}
    (within : program.Within (fun _ => True) fun result => result.1.isOk = true) :
    program.run Library.answer library ≠ ⟨.ok (.error error, left), entries, after⟩ := by
  intro ran
  cases within.run_post (congrArg Run.result ran)

/-- An operation that gives an error leaves the mount, and of the library all but the failure that
caused the error, if one did. -/
theorem perform_fails (mount : Mount) {operation : Operation} {library after : Library}
    {entries : List Entry} {error : Error} {left : Mount}
    (ran : (mount.perform operation).run Library.answer library =
      ⟨.ok (.error error, left), entries, after⟩) :
    left = mount ∧ operation.Fails library entries error after := by
  cases mount.course operation with
  | rejected rejected is =>
    rw [is] at ran
    cases ran
    exact ⟨rfl, .rejected rejected⟩
  | @concludes _ request asks concludes =>
    obtain ⟨code, answered, concluded, -⟩ := concludes.run_once ran
    unfold Mount.concluded at concluded
    split at concluded
    · cases concluded
    next failed =>
      cases concluded
      obtain ⟨named, kept⟩ := asks.named
      rcases Library.request_fails named kept answered failed with ⟨laid, rfl⟩ | ⟨none, rfl⟩
      · exact ⟨rfl, .injected asks laid⟩
      · exact ⟨rfl, .refused fun other also => asks.name_eq also ▸ none⟩
  | reads spelled is =>
    have looks := mount.getOption_looks is
    have same := looks.run_looks library
    obtain ⟨rfl, failed⟩ := looks.run_post (congrArg Run.result ran)
    obtain ⟨code, rfl⟩ := failed error rfl
    rw [ran] at same
    subst same
    exact ⟨rfl, .refused fun request asks => nomatch asks⟩
  | @sends line command some reads is =>
    have sent : (mount.perform (.command line)).Within (fun _ => True)
        fun result => result.1.isOk = true := by
      rw [perform, is]
      refine (Program.within_bind ..).mpr ((Program.within_bind ..).mpr ?_)
      exact (mount.send_within line.target command trivial fun _ _ => trivial).mono fun _ _ => rfl
    exact absurd ran (succeeds_of_within sent)
  | isMounted =>
    have told : (mount.perform .isMounted).Within (fun _ => True) fun result => result.1.isOk = true :=
      (Program.within_bind ..).mpr ((mount.isMounted_within trivial).mono fun _ _ => rfl)
    exact absurd ran (succeeds_of_within told)
  | currentDir =>
    have told : (mount.perform .currentDir).Within (fun _ => True) fun result => result.1.isOk = true :=
      ⟨trivial, fun _ => rfl⟩
    exact absurd ran (succeeds_of_within told)

end Mount

end CephMount
