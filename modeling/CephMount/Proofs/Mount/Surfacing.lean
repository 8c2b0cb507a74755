import CephMount.Proofs.ErrorCode
import CephMount.Proofs.Mount.Disclosure
import CephMount.Proofs.Mount.Rejection

/-! The errors of the library that come to the surface, over a boundary that may answer anything.

They are found in the reason of a failure, in the reply to a command and the failure that it is turned
into, and in events. Main statement: every one of them is genuine, so none is taken for success where its
code is checked again.
-/

set_option autoImplicit false

namespace CephMount

variable {σ α β : Type}

/-! Where errors are found. -/

/-- The errors in an outcome, with those in what a success gives. -/
def surfaced (inside : α → List ErrorCode) : Outcome α → List ErrorCode
  | .ok value => inside value
  | .error error => error.libraryError?.toList

/-- The errors in an outcome that gives none when it is a success. -/
abbrev reason (outcome : Outcome α) : List ErrorCode := surfaced (fun _ => []) outcome

/-- The error that a reply keeps, and the one in the failure that the reply is turned into. -/
def CommandReply.errors (reply : CommandReply) : List ErrorCode :=
  reply.error.toList ++ reason (reply.result.mapError .command)

def Answer.errors : Answer → List ErrorCode
  | .reply given => given.errors
  | .nothing | .text _ | .flag _ => []

def Life.Outcomes.errors (outcomes : Life.Outcomes) : List ErrorCode :=
  outcomes.operations.flatMap (surfaced Answer.errors) ++ reason outcomes.ending

/-- All of the errors are genuine. -/
def AllGenuine (errors : List ErrorCode) : Prop := ∀ error ∈ errors, error.Genuine

theorem allGenuine_nil : AllGenuine [] := List.forall_mem_nil _

theorem AllGenuine.append {first rest : List ErrorCode} (left : AllGenuine first)
    (right : AllGenuine rest) : AllGenuine (first ++ rest) := List.forall_mem_append.mpr ⟨left, right⟩

/-- A failure by a code that is not that of success. -/
theorem allGenuine_library {inside : α → List ErrorCode} {code : Int32} (failed : code ≠ 0) :
    AllGenuine (surfaced inside (.error (.library ⟨code⟩))) :=
  List.forall_mem_singleton.mpr (ErrorCode.genuine_iff.mpr failed)

theorem allGenuine_local {inside : α → List ErrorCode} {error : Error} (found : error.isLocal = true) :
    AllGenuine (surfaced inside (.error error)) := by
  cases error with
  | interiorNul offset => exact allGenuine_nil
  | emptyCommand => exact allGenuine_nil
  | library _ | command _ | config _ => cases found

/-- A reply keeps the error of its code, and so does what it is turned into. -/
theorem CommandReply.errors_allGenuine (output : Bytes) (info : String) (code : Int32) :
    AllGenuine (errors ⟨output, info, ErrorCode.ofCode? code⟩) := by
  unfold errors result
  cases failed : ErrorCode.ofCode? code with
  | none => exact allGenuine_nil
  | some error =>
    have genuine : AllGenuine [error] :=
      List.forall_mem_singleton.mpr (ErrorCode.genuine_of_ofCode? failed)
    exact genuine.append genuine

/-! Programs whose errors are genuine. -/

/-- Whatever is answered, the errors that are found in the result are genuine. -/
def Program.Genuine (errors : α → List ErrorCode) (program : Program α) : Prop :=
  program.Within (fun _ => True) fun result => AllGenuine (errors result)

theorem Program.Genuine.bind {errors : α → List ErrorCode} {more : β → List ErrorCode}
    {program : Program α} {next : α → Program β} (first : program.Genuine errors)
    (rest : ∀ result, AllGenuine (errors result) → (next result).Genuine more) :
    (program.bind next).Genuine more :=
  (Program.within_bind ..).mpr (first.mono rest)

/-- What comes of a program that gives no errors is told by what follows it. -/
theorem Program.Genuine.after (program : Program α) {next : α → Program β}
    {errors : β → List ErrorCode} (rest : ∀ result, (next result).Genuine errors) :
    (program.bind next).Genuine errors :=
  (Program.within_bind ..).mpr (program.within_any.mono fun result _ => rest result)

/-- Of a program that is told by its first call, the answer to that call tells the errors. -/
theorem Program.OpensWith.genuine {call : Call} {allowed : Call → Prop} {post : call.Reply → α → Prop}
    {errors : α → List ErrorCode} {program : Program α} (opens : program.OpensWith call allowed post)
    (told : ∀ reply result, post reply result → AllGenuine (errors result)) : program.Genuine errors := by
  obtain ⟨next, rfl, within⟩ := opens
  exact ⟨trivial, fun reply => ((within reply).mono (told reply)).widen fun _ _ => trivial⟩

namespace Mount

/-! Operations. -/

theorem configure_genuine (mount : Mount) (setting : Setting) :
    (mount.configure setting).Genuine fun result => reason result.1 := by
  cases crossed : setting.request with
  | error offset =>
    rw [configure, crossed]
    exact allGenuine_nil
  | ok request =>
    refine (mount.configure_opensWith crossed).genuine ?_
    rintro code _ rfl
    split
    · exact allGenuine_nil
    next failed => exact allGenuine_library failed

theorem send_genuine (mount : Mount) (target : String) (command : Command) :
    (mount.send target command).Genuine CommandReply.errors := by
  refine ⟨trivial, fun answer => ?_⟩
  refine Program.Genuine.after (takeBuffer .status answer.status) fun status => ?_
  refine Program.Genuine.after (takeBuffer .output answer.output) fun output => ?_
  have given := CommandReply.errors_allGenuine output (Utf8.lossy status) answer.code
  -- A failure is reported, which does not change the reply.
  dsimp only
  generalize ErrorCode.ofCode? answer.code = error at given ⊢
  cases error <;> exact given

theorem perform_genuine (mount : Mount) (operation : Operation) :
    (mount.perform operation).Genuine fun result => surfaced Answer.errors result.1 := by
  cases mount.course operation with
  | @rejected _ error rejected is =>
    rw [is]
    exact allGenuine_local rejected.isLocal
  | @concludes _ request asks concludes =>
    refine concludes.genuine ?_
    rintro code _ rfl
    unfold concluded
    split
    · exact allGenuine_nil
    next failed => exact allGenuine_library failed
  | @reads key name spelled is =>
    rw [perform, is]
    have looked : (mount.readOption name bufferGrowths firstBuffer).Genuine reason := by
      have opens := @readOption_opensWith (fun _ => True) mount name bufferGrowths firstBuffer
        fun _ => trivial
      refine opens.genuine fun _ outcome failures => ?_
      cases outcome with
      | ok value => exact allGenuine_nil
      | error error =>
        obtain ⟨code, failed, rfl⟩ := failures error rfl
        exact allGenuine_library failed
    refine looked.bind fun outcome genuine => ?_
    cases outcome <;> exact genuine
  | @sends line command some reads is =>
    have sent : ((mount.send line.target command).bind fun reply => .done (.ok reply)).Genuine
        (surfaced CommandReply.errors) :=
      (mount.send_genuine line.target command).bind fun _ genuine => genuine
    rw [perform, is]
    refine sent.bind fun outcome genuine => ?_
    cases outcome <;> exact genuine
  | isMounted => exact Program.Genuine.after _ fun _ => allGenuine_nil
  | currentDir => exact Program.Genuine.after _ fun _ => allGenuine_nil

theorem performAll_genuine (mount : Mount) (operations : List Operation) :
    (mount.performAll operations).Genuine fun result => result.1.flatMap (surfaced Answer.errors) := by
  induction operations generalizing mount with
  | nil => exact allGenuine_nil
  | cons operation rest ih =>
    refine (mount.perform_genuine operation).bind fun first genuine => ?_
    refine (ih first.2).bind fun others also => ?_
    exact genuine.append also

/-! Creations, and the end of a mount. -/

/-- A failed creation gives the error of its code, and an input/output error in place of success. -/
theorem allocated_genuine (call : String) (success : Handle → Event) (answer : Except Int32 Handle) :
    (allocated call success answer).Genuine reason := by
  cases answer with
  | ok handle => exact allGenuine_nil
  | error code =>
    exact List.forall_mem_singleton.mpr (ErrorCode.getD_inputOutput_genuine code)

theorem create_genuine (id : Option String) : (create id).Genuine reason := by
  unfold create
  split
  · exact allGenuine_nil
  · exact ⟨trivial, allocated_genuine _ _⟩

theorem prepare_genuine (mount : Mount) (settings : List Setting) :
    (mount.prepare settings).Genuine reason := by
  induction settings generalizing mount with
  | nil => exact allGenuine_nil
  | cons setting rest ih =>
    refine (mount.configure_genuine setting).bind fun result genuine => ?_
    obtain ⟨outcome, configured⟩ := result
    cases outcome with
    | ok => exact ih configured
    | error error => exact Program.Genuine.after _ fun _ => genuine

theorem release_genuine (mount : Mount) : mount.release.Genuine reason := by
  rw [release_eq]
  refine ⟨trivial, fun code => ?_⟩
  change Program.Genuine reason (if code = 0 then _ else _)
  split
  · exact allGenuine_nil
  next failed => exact Program.Genuine.after _ fun _ => allGenuine_library failed

end Mount

theorem Creation.program_genuine (creation : Creation) : creation.program.Genuine reason := by
  cases creation with
  | fresh id => exact Mount.create_genuine id
  | derived cluster => exact ⟨trivial, Mount.allocated_genuine _ _⟩
  | prepared config =>
    refine (Mount.create_genuine config.clientId).bind fun outcome genuine => ?_
    cases outcome with
    | error error => exact genuine
    | ok mount => exact mount.prepare_genuine config.settings

theorem Ending.program_genuine (ending : Ending) (mount : Mount) :
    (ending.program mount).Genuine reason := by
  cases ending with
  | release => exact mount.release_genuine
  | drop => exact Program.Genuine.after _ fun _ => allGenuine_nil

theorem Life.program_genuine (life : Life) : life.program.Genuine (surfaced Life.Outcomes.errors) := by
  refine life.creation.program_genuine.bind fun outcome genuine => ?_
  cases outcome with
  | error error => exact genuine
  | ok mount =>
    refine (mount.performAll_genuine life.operations).bind fun result given => ?_
    refine (life.ending.program_genuine result.2).bind fun ended last => ?_
    exact given.append last

/-! Errors in events. -/

/-- A call that fails for good does so with a genuine error. -/
theorem Entry.error?_genuine {entry : Entry} {error : ErrorCode} (failed : entry.error? = some error) :
    error.Genuine := by
  -- A creation that fails with the code of success has another error put in its place.
  have allocation {code : Int32} :
      (ErrorCode.mk (if code = 0 then Errno.inputOutput.code else code)).Genuine :=
    ErrorCode.getD_ofCode? code _ ▸ ErrorCode.getD_inputOutput_genuine code
  cases entry with
  | reported event => cases failed
  | called call reply =>
    cases call with
    | create id | createFromCluster cluster =>
      cases reply with
      | ok handle => cases failed
      | error code => cases failed; exact allocation
    | request handle request =>
      cases request with
      | isMounted => cases failed
      | _ => exact ErrorCode.genuine_of_ofCode? failed
    | readOption handle key buffer =>
      change (if reply.retried buffer then none else ErrorCode.ofCode? reply.code) = _ at failed
      split at failed
      · cases failed
      · exact ErrorCode.genuine_of_ofCode? failed
    | command handle command => exact ErrorCode.genuine_of_ofCode? failed
    | currentDir handle | freeBuffer part id | version => cases failed

/-- Errors are reported only in events that tell of a failure. -/
theorem Trace.mem_failures {entries : List Entry} {event : Event} {error : ErrorCode}
    (reported : .reported event ∈ entries) (tells : event.error? = some error) :
    event ∈ failures entries := by
  refine List.mem_filterMap.mpr ⟨_, reported, if_pos ?_⟩
  cases event <;> first | rfl | cases tells

/-- The errors that a life reports are those of its calls. -/
theorem Trace.Account.reported_genuine {held dropped : List Entry} (account : Account held dropped)
    {event : Event} {error : ErrorCode} (reported : .reported event ∈ held ++ dropped)
    (tells : event.error? = some error) : error.Genuine := by
  have told : error ∈ (failures (held ++ dropped)).filterMap Event.error? :=
    List.mem_filterMap.mpr ⟨event, mem_failures reported tells, tells⟩
  rw [account.errors] at told
  obtain ⟨entry, -, failed⟩ := List.mem_filterMap.mp told
  exact Entry.error?_genuine failed

/-- A code makes an error only if it is not that of success, and the error is genuine; so is the error
that is built from a number, unless the number is zero. Whatever the boundary answers, all errors that a
life gives its holder are genuine, and so are all that it reports. -/
theorem Life.errors_genuine (answers : Answers σ) (life : Life) (state : σ) :
    (∀ code error, ErrorCode.ofCode? code = some error → error.Genuine) ∧
      (∀ errno, (ErrorCode.ofErrno errno).Genuine ↔ errno ≠ 0) ∧
      ∃ entries outcome after,
        life.program.run (.answering answers) state = ⟨.ok outcome, entries, after⟩ ∧
          AllGenuine (surfaced Life.Outcomes.errors outcome) ∧
          ∀ event error, .reported event ∈ entries → event.error? = some error → error.Genuine := by
  refine ⟨fun _ _ => ErrorCode.genuine_of_ofCode?, ErrorCode.ofErrno_genuine_iff, ?_⟩
  obtain ⟨entries, outcome, after, ran, held, dropped, rfl, told, tells, parts⟩ :=
    (life.program_discloses answers state).run
  refine ⟨held ++ dropped, outcome, after, ran, ?_, fun event error => ?_⟩
  · exact life.program_genuine.run_post (congrArg Run.result ran)
  · exact (told.account tells parts.dropped).reported_genuine

end CephMount
