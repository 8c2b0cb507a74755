import CephMount.Proofs.InMemory.Failures

/-! A library with a failure laid up for one name, beside the same library without it.

Calls of other names do not tell the two apart. The first call of the name that comes back takes the
failure: it answers the code, and all else stays, but that a release is counted. So a program runs
alike in both until it makes such a call, and from there on in a library that has nothing laid up for
the name.
-/

set_option autoImplicit false

namespace CephMount

open InMemory

/-- The name under which a failure can be laid up for a call. -/
def Call.failureName? : Call → Option String
  | create _ => some "create"
  | createFromCluster _ => some "create_from_cluster"
  | request _ asked => Library.failureName? asked
  | readOption .. | currentDir _ | command .. | freeBuffer .. | version => none

/-- The misuse for which the library refuses a call before it looks for a failure. -/
def Call.misuse? (library : Library) : Call → Option Misuse
  | request _ (.mount (some _)) => some .mountedElsewhere
  | request handle (.readConfig _) =>
    if (library.record? handle).isNone then some (.usedAfterRelease handle) else none
  | _ => none

/-- The call takes a failure that is laid up for the name. -/
def Call.Takes (name : String) (library : Library) (call : Call) : Prop :=
  call.failureName? = some name ∧ call.misuse? library = none

/-- The call answers the code. A creation then gives no handle. -/
def Call.FailsWith (code : Int32) : (call : Call) → call.Reply → Prop
  | create _, reply => reply = .error code
  | createFromCluster _, reply => reply = .error code
  | request _ _, reply => reply = code
  | _, _ => False

def Entry.failureName? : Entry → Option String
  | called call _ => call.failureName?
  | reported _ => none

namespace Trace

/-- No call of the name came back. -/
def Without (name : String) (entries : List Entry) : Prop :=
  ∀ entry ∈ entries, entry.failureName? ≠ some name

instance (name : String) (entries : List Entry) : Decidable (Without name entries) :=
  inferInstanceAs (Decidable (∀ entry ∈ entries, entry.failureName? ≠ some name))

variable {name : String} {entry : Entry} {first rest : List Entry}

theorem without_nil (name : String) : Without name [] := fun _ member => nomatch member

theorem without_cons :
    Without name (entry :: rest) ↔ entry.failureName? ≠ some name ∧ Without name rest :=
  List.forall_mem_cons

theorem without_append : Without name (first ++ rest) ↔ Without name first ∧ Without name rest :=
  List.forall_mem_append

end Trace

/-- The program without its result. -/
def Program.void {α : Type} (program : Program α) : Program Unit := program.bind fun _ => .done ()

/-- Programs run one after the other, each from where the one before left the boundary, also if that was
cut short. From the first programs and state they get to the last ones, with the entries in between. -/
inductive Boundary.Leads {σ : Type} (boundary : Boundary σ) :
    List (Program Unit) → σ → List Entry → List (Program Unit) → σ → Prop where
  | none {programs : List (Program Unit)} {state : σ} : Leads boundary programs state [] programs state
  | done {late left : List (Program Unit)} {state last : σ} {entries : List Entry} :
      Leads boundary late state entries left last →
      Leads boundary (.done () :: late) state entries left last
  | reported {event : Event} {next : Program Unit} {late left : List (Program Unit)} {state last : σ}
      {entries : List Entry} : Leads boundary (next :: late) state entries left last →
      Leads boundary (.log event next :: late) state (.reported event :: entries) left last
  | called {call : Call} {next : call.Reply → Program Unit} {late left : List (Program Unit)}
      {reply : call.Reply} {state after last : σ} {entries : List Entry} :
      boundary call state = (.ok reply, after) →
      Leads boundary (next reply :: late) after entries left last →
      Leads boundary (.call call next :: late) state (.called call reply :: entries) left last
  | refused {call : Call} {next : call.Reply → Program Unit} {late left : List (Program Unit)}
      {misuse : Misuse} {state after last : σ} {entries : List Entry} :
      boundary call state = (.error misuse, after) → Leads boundary late after entries left last →
      Leads boundary (.call call next :: late) state entries left last

namespace Boundary.Leads

variable {σ : Type} {boundary : Boundary σ} {first second third : List (Program Unit)}
  {start between last : σ} {entries more : List Entry}

theorem trans (left : boundary.Leads first start entries second between)
    (right : boundary.Leads second between more third last) :
    boundary.Leads first start (entries ++ more) third last := by
  induction left with
  | none => exact right
  | done _ ih => exact .done (ih right)
  | reported _ ih => exact .reported (ih right)
  | called answered _ ih => exact .called answered (ih right)
  | refused answered _ ih => exact .refused answered (ih right)

/-- More programs behind those that run wait for their turn. -/
theorem append (leads : boundary.Leads first start entries second last) (late : List (Program Unit)) :
    boundary.Leads (first ++ late) start entries (second ++ late) last := by
  induction leads with
  | none => exact .none
  | done _ ih => exact .done ih
  | reported _ ih => exact .reported ih
  | called answered _ ih => exact .called answered ih
  | refused answered _ ih => exact .refused answered ih

/-- Programs that are through let the next ones run. -/
theorem follow (left : boundary.Leads first start entries [] between)
    (right : boundary.Leads second between more third last) :
    boundary.Leads (first ++ second) start (entries ++ more) third last :=
  (left.append second).trans right

end Boundary.Leads

theorem Program.run_leads {σ α : Type} (boundary : Boundary σ) (program : Program α) (state : σ) :
    let run := program.run boundary state
    boundary.Leads [program.void] state run.entries [] run.state := by
  induction program generalizing state with
  | done result => exact .done .none
  | log event next ih => exact .reported (ih state)
  | call request next ih =>
    simp only [run]
    split
    next misuse after refused => exact .refused refused .none
    next reply after answered => exact .called answered (ih reply after)

namespace InMemory

/-! The library. -/

namespace Library

/-- The library after a call that took the failure of its name. Nothing else came of it, but that a
release is counted. -/
def spend (library : Library) (name : String) : Library :=
  { library with
    failures := library.failures.erase name
    releases := if name = "release" then library.releases + 1 else library.releases }

variable {library : Library} {call : Call} {name : String} {code : Int32}

theorem record?_failNext (library : Library) (name : String) (code : Int32) (handle : Handle) :
    (library.failNext name code).record? handle = library.record? handle := rfl

/-- A second failure for a name replaces the first. -/
theorem failNext_failNext (library : Library) (name : String) (first last : Int32) :
    (library.failNext name first).failNext name last = library.failNext name last := by
  simp only [failNext, Table.insert_insert]

theorem failNext_comm (library : Library) {other : String} (code second : Int32)
    (apart : other ≠ name) :
    (library.failNext name code).failNext other second =
      (library.failNext other second).failNext name code := by
  simp only [failNext, Table.insert_comm _ _ _ apart]

theorem get?_failNext_of_ne {other : String} (apart : other ≠ name) :
    (library.failNext name code).failures.get? other = library.failures.get? other := by
  rw [failNext, Table.get?_insert, if_neg apart]

/-- Taking a failure for another name, before or after one is laid up. -/
theorem takeFailure_failNext {other : String} (apart : other ≠ name) :
    (library.failNext name code).takeFailure other =
      ((library.takeFailure other).1, (library.takeFailure other).2.failNext name code) := by
  rw [takeFailure, get?_failNext_of_ne apart]
  simp only [takeFailure, failNext, Table.erase_insert_of_ne _ _ apart]

theorem serve_failNext (handle : Handle) (request : Request) :
    (library.failNext name code).serve handle request =
      ((library.serve handle request).1, (library.serve handle request).2.failNext name code) := by
  unfold serve
  rw [record?_failNext]
  cases library.record? handle with
  | none => rfl
  | some record =>
    rw [show (library.failNext name code).surroundings = library.surroundings from rfl]
    dsimp only
    cases record.serve library.surroundings request <;> rfl

theorem serveUnlessFailing_failNext (library : Library) (code : Int32) (handle : Handle)
    {request : Request} (apart : failureName? request ≠ some name) :
    (library.failNext name code).serveUnlessFailing handle request =
      ((library.serveUnlessFailing handle request).1,
        (library.serveUnlessFailing handle request).2.failNext name code) := by
  have taken : (library.failNext name code).takeRequestFailure request =
      ((library.takeRequestFailure request).1,
        (library.takeRequestFailure request).2.failNext name code) := by
    unfold takeRequestFailure
    cases named : failureName? request with
    | none => rfl
    | some other => exact takeFailure_failNext fun same => apart (named.trans (congrArg some same))
  unfold serveUnlessFailing
  rw [taken]
  rcases library.takeRequestFailure request with ⟨_ | laid, after⟩
  · exact serve_failNext handle request
  · rfl

theorem request_failNext (handle : Handle) {request : Request}
    (apart : failureName? request ≠ some name) :
    (library.failNext name code).request handle request =
      ((library.request handle request).1, (library.request handle request).2.failNext name code) := by
  have unlessFailing (library : Library) := serveUnlessFailing_failNext library code handle apart
  cases request with
  | mount root =>
    cases root with
    | none => exact unlessFailing library
    | some root => rfl
  | readConfig list =>
    unfold Library.request
    rw [record?_failNext]
    dsimp only
    split
    · rfl
    · exact unlessFailing library
  | release => exact unlessFailing { library with releases := library.releases + 1 }
  | _ => exact unlessFailing library

theorem create_failNext {other : String} (record : Record) (apart : other ≠ name) :
    (library.failNext name code).create other record =
      ((library.create other record).1, (library.create other record).2.failNext name code) := by
  unfold create
  rw [takeFailure_failNext apart]
  rcases library.takeFailure other with ⟨_ | laid, after⟩ <;> rfl

theorem command_failNext (handle : Handle) (command : Command) :
    answer (.command handle command) (library.failNext name code) =
      ((answer (.command handle command) library).1,
        (answer (.command handle command) library).2.failNext name code) := by
  cases found : library.record? handle with
  | none =>
    have foundToo := (record?_failNext library name code handle).trans found
    rw [answer_command_of_dead command found, answer_command_of_dead command foundToo]
    rfl
  | some record =>
    have foundToo := (record?_failNext library name code handle).trans found
    let recorded : Library :=
      { library with commands := library.commands ++ [RecordedCommand.ofCommand command] }
    let own := library.commandReply record (.ofCommand command)
    -- What is handed out once the command has been recorded.
    let reply (library : Library) : Except Misuse CommandAnswer × Library :=
      let output := library.allocate own.output
      let status := output.2.allocate (Utf8.encode own.info)
      (.ok ⟨own.code, output.1, status.1⟩, status.2)
    have allocated (library : Library) (bytes : Bytes) :
        (library.failNext name code).allocate bytes =
          ((library.allocate bytes).1, (library.allocate bytes).2.failNext name code) := by
      unfold allocate
      split <;> rfl
    have sent : answer (.command handle command) library = reply recorded :=
      answer_command command found
    have sentToo : answer (.command handle command) (library.failNext name code) =
        reply (recorded.failNext name code) := answer_command command foundToo
    rw [sent, sentToo]
    simp only [reply, allocated]

theorem free_failNext (id : BufferId) :
    (library.failNext name code).free id =
      ((library.free id).1, (library.free id).2.failNext name code) := by
  cases id with
  | arranged number => rfl
  | library number =>
    simp only [free, show (library.failNext name code).liveBuffers = library.liveBuffers from rfl]
    split <;> rfl

theorem answer_failNext_of_ne (apart : call.failureName? ≠ some name) :
    answer call (library.failNext name code) =
      ((answer call library).1, (answer call library).2.failNext name code) := by
  cases call with
  | create id | createFromCluster cluster =>
    simp only [answer, create_failNext _ fun same => apart (congrArg some same)]
  | request handle request => exact request_failNext handle apart
  | readOption handle key buffer | currentDir handle =>
    simp only [answer, look]
    rw [record?_failNext]
    cases library.record? handle <;> rfl
  | command handle command => exact command_failNext handle command
  | freeBuffer part id => exact free_failNext id
  | version => rfl

/-! The call that takes the failure. -/

theorem spend_of_ne (apart : name ≠ "release") :
    library.spend name = { library with failures := library.failures.erase name } := by
  rw [spend, if_neg apart]

theorem takeFailure_failNext_self :
    (library.failNext name code).takeFailure name =
      (some code, { library with failures := library.failures.erase name }) := by
  simp only [takeFailure, failNext, Table.get?_insert, if_true, Table.erase_insert]

theorem create_failNext_self (record : Record) (apart : name ≠ "release") :
    (library.failNext name code).create name record = (.error code, library.spend name) := by
  rw [create, takeFailure_failNext_self, spend_of_ne apart]

theorem serveUnlessFailing_failNext_self (library : Library) (code : Int32) (handle : Handle)
    {request : Request} (named : failureName? request = some name) :
    (library.failNext name code).serveUnlessFailing handle request =
      (.ok code, { library with failures := library.failures.erase name }) := by
  rw [serveUnlessFailing, takeRequestFailure, named]
  simp only [takeFailure_failNext_self]

/-- Only a release takes the failure that is laid up for releases. -/
theorem name_ne_release {request : Request} (named : failureName? request = some name)
    (kept : request ≠ .release) : name ≠ "release" := by
  rintro rfl
  cases request with
  | release => exact kept rfl
  | _ => simp [failureName?, Request.name] at named

theorem request_failNext_self (handle : Handle) {request : Request}
    (named : failureName? request = some name)
    (proper : (Call.request handle request).misuse? library = none) :
    (library.failNext name code).request handle request = (.ok code, library.spend name) := by
  have struck (library : Library) := serveUnlessFailing_failNext_self library code handle named
  -- All but a release spend no more than the failure.
  have spent (kept : request ≠ .release) :
      (library.failNext name code).serveUnlessFailing handle request = (.ok code, library.spend name) := by
    rw [struck, spend_of_ne (name_ne_release named kept)]
  cases request with
  | isMounted => cases named
  | mount root =>
    cases root with
    | some root => cases proper
    | none => exact spent nofun
  | readConfig list =>
    have live : ¬(library.record? handle).isNone = true := fun dead => by
      simp [Call.misuse?, dead] at proper
    exact (if_neg live).trans (spent nofun)
  | release =>
    cases named
    exact struck { library with releases := library.releases + 1 }
  | _ => exact spent nofun

/-- The call that takes the failure answers its code, and has no other effect. -/
theorem answer_failNext_of_takes (code : Int32) (takes : call.Takes name library) :
    ∃ reply, call.FailsWith code reply ∧
      answer call (library.failNext name code) = (.ok reply, library.spend name) := by
  obtain ⟨named, proper⟩ := takes
  cases call with
  | create id =>
    cases named
    exact ⟨.error code, rfl, by rw [answer, create_failNext_self _ (by decide)]⟩
  | createFromCluster cluster =>
    cases named
    exact ⟨.error code, rfl, by rw [answer, create_failNext_self _ (by decide)]⟩
  | request handle request => exact ⟨code, rfl, request_failNext_self handle named proper⟩
  | _ => cases named

/-- A misuse is refused, and takes nothing. -/
theorem answer_of_misuse {misuse : Misuse} (misused : call.misuse? library = some misuse) :
    answer call library = (.error misuse, library) := by
  unfold Call.misuse? at misused
  split at misused
  · cases misused
    rfl
  next handle list =>
    split at misused
    next dead =>
      cases misused
      exact if_pos dead
    · cases misused
  · cases misused

/-- Any other call is answered as if the failure were not laid up, and leaves it. -/
theorem answer_failNext (code : Int32) (spares : ¬call.Takes name library) :
    answer call (library.failNext name code) =
      ((answer call library).1, (answer call library).2.failNext name code) := by
  by_cases named : call.failureName? = some name
  · obtain ⟨misuse, misused⟩ := Option.ne_none_iff_exists'.mp fun proper => spares ⟨named, proper⟩
    have misusedToo : call.misuse? (library.failNext name code) = some misuse := misused
    rw [answer_of_misuse misused, answer_of_misuse misusedToo]
  · exact answer_failNext_of_ne named

end Library

/-! The library with answers arranged in front of it. -/

namespace Arranged

def failNext (state : Arranged) (name : String) (code : Int32) : Arranged :=
  { state with library := state.library.failNext name code }

def spend (state : Arranged) (name : String) : Arranged :=
  { state with library := state.library.spend name }

theorem library_failNext (state : Arranged) (name : String) (code : Int32) :
    (state.failNext name code).library = state.library.failNext name code := rfl

/-- Nothing is laid up for the name. -/
def Unlaid (name : String) (state : Arranged) : Prop := state.library.failures.get? name = none

/-- The answers where no failure can be laid up for the name: one that is laid up does not count. -/
def unfailing (name : String) : Boundary Arranged := fun call state =>
  answer call { state with library := (state.library.takeFailure name).2 }

variable {state : Arranged} {call : Call} {name : String} {code : Int32}

theorem pass_failNext (state : Arranged) (code : Int32) (spares : ¬call.Takes name state.library) :
    (state.failNext name code).pass call =
      ((state.pass call).1, (state.pass call).2.failNext name code) := by
  unfold pass
  rw [library_failNext, Library.answer_failNext code spares]
  rfl

theorem replace_failNext (state : Arranged) (code : Int32) (handle : Handle) (command : Command)
    (reply : ArrangedReply) :
    (state.failNext name code).replace handle command reply =
      ((state.replace handle command reply).1,
        (state.replace handle command reply).2.failNext name code) := by
  have discarded (state : Arranged) (returned : Returned) :
      (state.failNext name code).discard returned = (state.discard returned).failNext name code := by
    unfold discard
    cases returned.buffer with
    | none => rfl
    | some buffer =>
      dsimp only
      rw [library_failNext, Library.free_failNext]
      rfl
  have allocated (state : Arranged) (arranged : ArrangedBuffer) :
      (state.failNext name code).allocate arranged =
        ((state.allocate arranged).1, (state.allocate arranged).2.failNext name code) := by
    unfold allocate
    split <;> rfl
  have spares : ¬(Call.command handle command).Takes name state.library := fun takes => by cases takes.1
  unfold replace
  rw [pass_failNext state code spares]
  rcases state.pass (.command handle command) with ⟨misuse | own, after⟩
  · rfl
  · simp only [discarded, allocated]

/-- A call that does not take the failure is answered as if it were not laid up, and leaves it. -/
theorem answer_failNext (state : Arranged) (code : Int32) (spares : ¬call.Takes name state.library) :
    answer call (state.failNext name code) =
      ((answer call state).1, (answer call state).2.failNext name code) := by
  have passed := pass_failNext state code spares
  cases call with
  | create id | createFromCluster cluster => exact passed
  | request handle request =>
    cases request with
    | isMounted =>
      simp only [answer, show (state.failNext name code).mountedFlags = state.mountedFlags from rfl]
      cases state.mountedFlags with
      | nil => exact passed
      | cons code rest => rfl
    | _ => exact passed
  | readOption handle key buffer =>
    simp only [answer, show (state.failNext name code).options = state.options from rfl]
    cases state.options with
    | nil => exact passed
    | cons option rest => rfl
  | currentDir handle =>
    simp only [answer, show (state.failNext name code).currentDirs = state.currentDirs from rfl]
    cases state.currentDirs with
    | nil => exact passed
    | cons path rest => rfl
  | command handle command =>
    simp only [answer, show (state.failNext name code).replies = state.replies from rfl]
    cases state.replies with
    | nil => exact passed
    | cons reply rest => exact replace_failNext { state with replies := rest } code handle command reply
  | freeBuffer part id =>
    cases id with
    | library number => exact passed
    | arranged number =>
      simp only [answer, free, show (state.failNext name code).liveBuffers = state.liveBuffers from rfl]
      split <;> rfl
  | version =>
    simp only [answer, show (state.failNext name code).version = state.version from rfl]
    cases state.version with
    | none => exact passed
    | some version => rfl

/-- Nothing is arranged in front of the calls for which a failure can be laid up. -/
theorem answer_of_named (named : call.failureName? = some name) (state : Arranged) :
    answer call state = state.pass call := by
  cases call with
  | request handle request =>
    cases request with
    | isMounted => cases named
    | _ => rfl
  | create id | createFromCluster cluster => rfl
  | _ => cases named

theorem answer_failNext_of_takes (state : Arranged) (code : Int32)
    (takes : call.Takes name state.library) :
    ∃ reply, call.FailsWith code reply ∧
      answer call (state.failNext name code) = (.ok reply, state.spend name) := by
  obtain ⟨reply, fails, answered⟩ := Library.answer_failNext_of_takes code takes
  refine ⟨reply, fails, ?_⟩
  rw [answer_of_named takes.1, pass, library_failNext, answered]
  rfl

/-- What comes back was no misuse. -/
theorem takes_of_answered {reply : call.Reply} {after : Arranged} (named : call.failureName? = some name)
    (answered : answer call state = (.ok reply, after)) : call.Takes name state.library := by
  refine ⟨named, ?_⟩
  cases misused : call.misuse? state.library with
  | none => rfl
  | some misuse =>
    rw [answer_of_named named, pass, Library.answer_of_misuse misused] at answered
    cases answered

theorem addCopies_failNext (state : Arranged) (name : String) (code : Int32)
    (arrangement : Arrangement) (times : Nat) :
    (state.failNext name code).addCopies arrangement times =
      (state.addCopies arrangement times).failNext name code := by
  induction times generalizing state with
  | zero => rfl
  | succ times ih =>
    have added : (state.failNext name code).add arrangement =
        (state.add arrangement).failNext name code := by cases arrangement <;> rfl
    rw [addCopies, addCopies, added, ih]

theorem answer_unlaid (call : Call) (unlaid : state.Unlaid name) : (answer call state).2.Unlaid name := by
  have kept (call : Call) (library : Library) (free : library.failures.get? name = none) :
      (Library.answer call library).2.failures.get? name = none := by
    cases found : (Library.answer call library).2.failures.get? name with
    | none => rfl
    | some code => exact (Library.answer_spends call library name code found).symm.trans free
  exact @answer_library (fun library => library.failures.get? name = none) kept call state unlaid

/-- Where nothing is laid up for the name, a failure for it makes no difference. -/
theorem answer_eq_unfailing (call : Call) (unlaid : state.Unlaid name) :
    unfailing name call state = answer call state := by
  rw [unfailing, Library.takeFailure_of_none unlaid]

end Arranged

end InMemory

/-- From a state in which nothing is laid up for a name, programs run as if nothing could be. -/
theorem InMemory.Arranged.Unlaid.leads {name : String} {first left : List (Program Unit)}
    {start last : Arranged} {entries : List Entry} (unlaid : start.Unlaid name)
    (leads : Boundary.Leads Arranged.answer first start entries left last) :
    (Arranged.unfailing name).Leads first start entries left last ∧ last.Unlaid name := by
  induction leads with
  | none => exact ⟨.none, unlaid⟩
  | done _ ih => exact ⟨.done (ih unlaid).1, (ih unlaid).2⟩
  | reported _ ih => exact ⟨.reported (ih unlaid).1, (ih unlaid).2⟩
  | @called call _ _ _ _ _ _ _ _ answered _ ih =>
    have kept := Arranged.answer_unlaid call unlaid
    rw [answered] at kept
    exact ⟨.called ((Arranged.answer_eq_unfailing call unlaid).trans answered) (ih kept).1, (ih kept).2⟩
  | @refused call _ _ _ _ _ _ _ _ refused _ ih =>
    have kept := Arranged.answer_unlaid call unlaid
    rw [refused] at kept
    exact ⟨.refused ((Arranged.answer_eq_unfailing call unlaid).trans refused) (ih kept).1, (ih kept).2⟩

/-! A failure strikes. -/

/-- One call of the name takes the failure. Up to there the programs run as they do without it, and no
call of the name comes back. The call answers the code, and leaves the state that it was made in, but that
a release is counted. From there the programs run on as if nothing could be laid up for the name. -/
inductive InMemory.Arranged.Strikes (name : String) (code : Int32) (programs : List (Program Unit))
    (start : Arranged) (entries : List Entry) (left : List (Program Unit)) (last : Arranged) : Prop where
  | intro {before rest : List Entry} {call : Call} {next : call.Reply → Program Unit}
      {late : List (Program Unit)} {reply : call.Reply} {between : Arranged} :
      Boundary.Leads Arranged.answer programs start before (.call call next :: late) between →
      Trace.Without name before → call.failureName? = some name → call.FailsWith code reply →
      Arranged.answer call (between.failNext name code) = (.ok reply, between.spend name) →
      (Arranged.unfailing name).Leads (next reply :: late) (between.spend name) rest left last →
      last.Unlaid name → entries = before ++ .called call reply :: rest →
      Strikes name code programs start entries left last

namespace InMemory.Arranged

variable {name : String} {code : Int32} {first programs left : List (Program Unit)}
  {start between last : Arranged} {entries more : List Entry}

theorem spend_unlaid (state : Arranged) (name : String) : (state.spend name).Unlaid name := by
  simp [Unlaid, spend, Library.spend]

/-- The failure strikes behind what runs alike with and without it. -/
theorem Strikes.prepend (strikes : Strikes name code programs between more left last)
    (leads : Boundary.Leads Arranged.answer first start entries programs between)
    (without : Trace.Without name entries) :
    Strikes name code first start (entries ++ more) left last := by
  obtain ⟨reached, spared, named, fails, answered, goes, unlaid, rfl⟩ := strikes
  exact ⟨leads.trans reached, Trace.without_append.mpr ⟨without, spared⟩, named, fails, answered, goes,
    unlaid, (List.append_assoc ..).symm⟩

/-- Nothing is laid up for the name once a failure has struck. -/
theorem Strikes.unlaid (strikes : Strikes name code programs start entries left last) :
    last.Unlaid name := by
  obtain ⟨-, -, -, -, -, -, unlaid, -⟩ := strikes
  exact unlaid

/-- Programs that run with a failure laid up make no call of its name, or it strikes. -/
theorem strikes_of_leads
    (leads : Boundary.Leads answer programs (start.failNext name code) entries left last)
    (called : ¬Trace.Without name entries) : Strikes name code programs start entries left last := by
  generalize failing : start.failNext name code = state at leads
  induction leads generalizing start with
  | none => exact absurd (Trace.without_nil name) called
  | done _ ih => exact (ih called failing).prepend (.done .none) (Trace.without_nil name)
  | @reported event _ _ _ _ _ entries _ ih =>
    have spared : Trace.Without name [.reported event] :=
      Trace.without_cons.mpr ⟨nofun, Trace.without_nil name⟩
    have later : ¬Trace.Without name entries := fun without =>
      called (Trace.without_append.mpr ⟨spared, without⟩)
    exact (ih later failing).prepend (.reported .none) spared
  | @called call next late left reply state after last entries answered rest ih =>
    subst failing
    by_cases named : call.failureName? = some name
    · have takes : call.Takes name (start.failNext name code).library :=
        takes_of_answered named answered
      obtain ⟨given, fails, struck⟩ := answer_failNext_of_takes start code takes
      cases struck.symm.trans answered
      obtain ⟨goes, unlaid⟩ := (spend_unlaid start name).leads rest
      exact ⟨.none, Trace.without_nil name, named, fails, struck, goes, unlaid, rfl⟩
    · have spared : Trace.Without name [.called call reply] :=
        Trace.without_cons.mpr ⟨named, Trace.without_nil name⟩
      have later : ¬Trace.Without name entries := fun without =>
        called (Trace.without_append.mpr ⟨spared, without⟩)
      have alike := answer_failNext start code fun takes => named takes.1
      cases plain : answer call start with
      | mk given between =>
        rw [plain] at alike
        cases alike.symm.trans answered
        exact (ih later rfl).prepend (.called plain .none) spared
  | @refused call next late left misuse state after last entries refused _ ih =>
    subst failing
    have spares : ¬call.Takes name start.library := fun takes => by
      obtain ⟨given, fails, struck⟩ := answer_failNext_of_takes start code takes
      cases struck.symm.trans refused
    have alike := answer_failNext start code spares
    cases plain : answer call start with
    | mk given between =>
      rw [plain] at alike
      cases alike.symm.trans refused
      exact (ih called rfl).prepend (.refused plain .none) (Trace.without_nil name)

end InMemory.Arranged

/-- A program that makes no call of the name runs as it would without the failure. -/
theorem Program.run_failNext {α : Type} (program : Program α) (state : Arranged) (name : String)
    (code : Int32)
    (without : Trace.Without name (program.run Arranged.answer (state.failNext name code)).entries) :
    let plain := program.run Arranged.answer state
    program.run Arranged.answer (state.failNext name code) =
      { plain with state := plain.state.failNext name code } := by
  induction program generalizing state with
  | done result => rfl
  | log event next ih => simp only [run, ih state (Trace.without_cons.mp without).2]
  | call request next ih =>
    have spares : ¬request.Takes name state.library := fun takes => by
      obtain ⟨reply, -, struck⟩ := Arranged.answer_failNext_of_takes state code takes
      simp only [run, struck] at without
      exact (Trace.without_cons.mp without).1 takes.1
    have alike := Arranged.answer_failNext state code spares
    cases plain : Arranged.answer request state with
    | mk given between =>
      rw [plain] at alike
      cases given with
      | error misuse => simp only [run, plain, alike]
      | ok reply =>
        simp only [run, alike] at without
        simp only [run, plain, alike, ih reply between (Trace.without_cons.mp without).2]

end CephMount
