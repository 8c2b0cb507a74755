import CephMount.Proofs.InMemory.Injection
import CephMount.Proofs.Session.Runs

/-! A session with a failure laid up for one name, beside the same session without it.

The two report the same until a call of the name comes back, whatever else is done in them, and differ
in nothing but the failure. That call takes the failure, in whichever step and for whichever mount it
is made. Until another failure is laid up for the name, no later call of it fails by one.
-/

set_option autoImplicit false

namespace CephMount

open InMemory

/-- The code that the step lays up for a name. -/
def Instruction.laid? (name : String) : Instruction → Option Int32
  | .control (.fail call code) => if call = name then some code else none
  | _ => none

namespace Session

/-- The code that is laid up for a name after steps that do not take it: the last one. -/
def laidUp (name : String) (code : Int32) (steps : List Step) : Int32 :=
  steps.foldl (fun code step => (step.instruction.laid? name).getD code) code

/-- What the steps report, without the end of the session. -/
def told (session : Session) : List Step → List Report
  | [] => []
  | first :: rest => (session.step first).1 :: (session.step first).2.told rest

/-- The program that drops the mount of a slot, if it holds one. -/
def dropping (session : Session) (slot : String) : List (Program Unit) :=
  (session.mounts.get? slot).toList.map fun mount => mount.drop.void

/-- The programs that a step runs. -/
def programs (session : Session) (slot : String) : Instruction → List (Program Unit)
  | .around request => (session.handles.get? slot).toList.map fun handle =>
      (Program.perform (.request handle request)).void
  | .create source => session.dropping slot ++
      (session.creation source).toOption.toList.map fun creation => creation.program.void
  | .operate operation => (session.mounts.get? slot).toList.map fun mount =>
      (mount.perform operation).void
  | .release => (session.mounts.get? slot).toList.map fun mount => mount.release.void
  | .drop => session.dropping slot
  | _ => []

/-- The programs that the end of the session runs. -/
def closing (session : Session) : List (Program Unit) :=
  session.mounts.keys.flatMap session.dropping

/-- The turn is what the programs come to on the boundary. -/
def Turn.Answers (turn : Turn) (boundary : Boundary Arranged) (programs : List (Program Unit))
    (start : Arranged) : Prop :=
  boundary.Leads programs start turn.entries [] turn.session.boundary

/-- If the turn with the failure makes no call of the name, it is the turn without it, and the failure
stays laid up beside all that this leaves. -/
def Turn.Spares (failing plain : Turn) (name : String) (code : Int32) : Prop :=
  Trace.Without name failing.entries →
    failing = { plain with session := plain.session.control (.fail name code) }

/-- The failure strikes in one of the programs of the turn. -/
def Turn.Struck (turn : Turn) (name : String) (code : Int32) (programs : List (Program Unit))
    (start : Arranged) : Prop :=
  Arranged.Strikes name code programs start turn.entries [] turn.session.boundary

/-! Turns and the programs that they run. -/

section

variable {α : Type} {program : Program α} {finish : Session → α → Session × Result}

theorem run_entries (start : Session) :
    (start.run program finish).entries = (program.run Arranged.answer start.boundary).entries := by
  unfold run
  dsimp only
  split <;> rfl

variable (finished : ∀ session result, (finish session result).1.boundary = session.boundary)
include finished

theorem run_boundary (start : Session) :
    (start.run program finish).session.boundary =
      (program.run Arranged.answer start.boundary).state := by
  unfold run
  dsimp only
  split
  · rfl
  · exact finished _ _

theorem run_answers (start : Session) :
    (start.run program finish).Answers Arranged.answer [program.void] start.boundary := by
  unfold Turn.Answers
  rw [run_entries, run_boundary finished]
  exact program.run_leads Arranged.answer start.boundary

end

theorem Turn.Answers.follow {boundary : Boundary Arranged} {first rest : List (Program Unit)}
    {start : Arranged} {turn : Turn} {next : Session → Turn}
    (answers : turn.Answers boundary first start)
    (goes : (next turn.session).Answers boundary rest turn.session.boundary) :
    (turn.follow next).Answers boundary (first ++ rest) start :=
  Boundary.Leads.follow answers goes

theorem vacate_answers (session : Session) (slot : String) :
    (session.vacate slot).Answers Arranged.answer (session.dropping slot) session.boundary := by
  unfold vacate dropping
  cases session.mounts.get? slot with
  | none => exact .none
  | some mount =>
    exact run_answers (fun _ _ => rfl) { session with mounts := session.mounts.erase slot }

theorem make_answers (session : Session) (slot : String) (source : Source) :
    (session.make slot source).Answers Arranged.answer
      ((session.creation source).toOption.toList.map fun creation => creation.program.void)
      session.boundary := by
  unfold make
  cases session.creation source with
  | error result => exact .none
  | ok creation =>
    refine run_answers (fun session outcome => ?_) session
    cases outcome <;> rfl

/-- A slot that is vacated leaves the other mounts. -/
theorem vacate_session (session : Session) (slot : String) :
    ∃ boundary, (session.vacate slot).session =
      { session with boundary, mounts := session.mounts.erase slot } := by
  unfold vacate
  split
  next vacant => exact ⟨session.boundary, by rw [Table.erase_of_get?_eq_none vacant]; rfl⟩
  next mount held =>
    unfold run
    dsimp only
    split <;> exact ⟨_, rfl⟩

theorem perform_answers (session : Session) (slot : String) {instruction : Instruction}
    (inside : instruction.isOutside = false) :
    (session.perform slot instruction).Answers Arranged.answer (session.programs slot instruction)
      session.boundary := by
  cases instruction with
  | control control | setFlag mounted => cases inside
  | connect cluster | totals | commands => exact .none
  | handle | attributes path =>
    simp only [perform, withHandle]
    split <;> exact .none
  | describe | liveHandles =>
    simp only [perform, withMount]
    split <;> exact .none
  | around request =>
    simp only [perform, programs, withHandle]
    cases session.handles.get? slot with
    | none => exact .none
    | some handle => exact run_answers (fun _ _ => rfl) session
  | create source =>
    have made := make_answers (session.vacate slot).session slot source
    have same : (session.vacate slot).session.creation source = session.creation source := by
      obtain ⟨boundary, left⟩ := session.vacate_session slot
      rw [left]
      cases source <;> rfl
    rw [same] at made
    exact (vacate_answers session slot).follow made
  | operate operation =>
    simp only [perform, programs, withMount]
    cases session.mounts.get? slot with
    | none => exact .none
    | some mount => exact run_answers (fun _ _ => rfl) session
  | release =>
    simp only [perform, programs, withMount]
    cases session.mounts.get? slot with
    | none => exact .none
    | some mount =>
      exact run_answers (fun _ _ => rfl) { session with mounts := session.mounts.erase slot }
  | drop =>
    cases held : session.mounts.get? slot with
    | none =>
      simp only [perform, programs, dropping, withMount, held]
      exact .none
    | some mount =>
      simp only [perform, withMount, held]
      exact vacate_answers session slot

/-- The end of a session drops the mounts that it started with, in the order of their slots. -/
theorem close_answers (session : Session) :
    session.close.Answers Arranged.answer session.closing session.boundary := by
  let drop (turn : Turn) (slot : String) : Turn := turn.follow fun session => session.vacate slot
  have dropped (slots : List String) (distinct : slots.Nodup) (turn : Turn)
      (early : List (Program Unit)) (answers : turn.Answers Arranged.answer early session.boundary)
      (held : ∀ slot ∈ slots, turn.session.mounts.get? slot = session.mounts.get? slot) :
      (slots.foldl drop turn).Answers Arranged.answer (early ++ slots.flatMap session.dropping)
        session.boundary := by
    induction slots generalizing turn early with
    | nil => exact (List.append_nil early).symm ▸ answers
    | cons slot rest ih =>
      obtain ⟨absent, distinct⟩ := List.nodup_cons.mp distinct
      obtain ⟨own, held⟩ := List.forall_mem_cons.mp held
      obtain ⟨boundary, left⟩ := turn.session.vacate_session slot
      have same : turn.session.dropping slot = session.dropping slot := by rw [dropping, own, dropping]
      rw [List.flatMap_cons, ← List.append_assoc, List.foldl_cons]
      refine ih distinct _ _ (answers.follow (same ▸ vacate_answers turn.session slot)) ?_
      intro other member
      have apart : other ≠ slot := fun same => absent (same ▸ member)
      change (turn.session.vacate slot).session.mounts.get? other = _
      rw [left, Table.get?_erase, if_neg apart]
      exact held other member
  have all := dropped session.mounts.keys session.mounts.nodup_keys (session.quiet (.answer .nothing)) []
    .none fun _ _ => rfl
  exact List.append_nil session.closing ▸ Turn.Answers.follow all .none

/-! Turns with a failure and without it. -/

variable {name : String} {code : Int32}

theorem quiet_spares (session : Session) (name : String) (code : Int32) (result : Result) :
    ((session.control (.fail name code)).quiet result).Spares (session.quiet result) name code :=
  fun _ => rfl

/-- What is done with the result of a program has nothing to do with the boundary. -/
theorem run_spares {α : Type} (session : Session) (program : Program α)
    {finish : Session → α → Session × Result}
    (apart : ∀ start result, finish (start.control (.fail name code)) result =
      ((finish start result).1.control (.fail name code), (finish start result).2)) :
    ((session.control (.fail name code)).run program finish).Spares (session.run program finish)
      name code := by
  intro without
  rw [run_entries] at without
  have alike := program.run_failNext session.boundary name code without
  unfold run
  rw [show (session.control (.fail name code)).boundary = session.boundary.failNext name code from rfl,
    alike]
  generalize program.run Arranged.answer session.boundary = plain
  obtain ⟨result, entries, state⟩ := plain
  cases result with
  | error misuse => rfl
  | ok value =>
    exact congrArg (fun finished : Session × Result => Turn.mk finished.2 entries finished.1)
      (apart { session with boundary := state } value)

theorem vacate_spares (session : Session) (name : String) (code : Int32) (slot : String) :
    ((session.control (.fail name code)).vacate slot).Spares (session.vacate slot) name code := by
  unfold vacate
  rw [show (session.control (.fail name code)).mounts = session.mounts from rfl]
  cases session.mounts.get? slot with
  | none => exact quiet_spares session name code _
  | some mount =>
    exact run_spares { session with mounts := session.mounts.erase slot } mount.drop fun _ _ => rfl

theorem make_spares (session : Session) (name : String) (code : Int32) (slot : String)
    (source : Source) :
    ((session.control (.fail name code)).make slot source).Spares (session.make slot source)
      name code := by
  unfold make
  rw [show (session.control (.fail name code)).creation source = session.creation source from rfl]
  cases session.creation source with
  | error result => exact quiet_spares session name code result
  | ok creation =>
    refine run_spares session creation.program fun start outcome => ?_
    cases outcome <;> rfl

theorem Turn.Spares.follow {failing plain : Turn} {next : Session → Turn}
    (first : failing.Spares plain name code)
    (rest : ∀ session, (next (session.control (.fail name code))).Spares (next session) name code) :
    (failing.follow next).Spares (plain.follow next) name code := by
  intro without
  obtain ⟨own, later⟩ := Trace.without_append.mp without
  obtain rfl := first own
  simp only [Turn.follow, rest plain.session later]

theorem withMount_spares (session : Session) (slot : String) {failing plain : Mount → Turn}
    (used : ∀ mount, (failing mount).Spares (plain mount) name code) :
    ((session.control (.fail name code)).withMount slot failing).Spares (session.withMount slot plain)
      name code := by
  unfold withMount
  rw [show (session.control (.fail name code)).mounts = session.mounts from rfl]
  cases session.mounts.get? slot with
  | none => exact quiet_spares session name code _
  | some mount => exact used mount

theorem withHandle_spares (session : Session) (slot : String) {failing plain : Handle → Turn}
    (used : ∀ handle, (failing handle).Spares (plain handle) name code) :
    ((session.control (.fail name code)).withHandle slot failing).Spares (session.withHandle slot plain)
      name code := by
  unfold withHandle
  rw [show (session.control (.fail name code)).handles = session.handles from rfl]
  cases session.handles.get? slot with
  | none => exact quiet_spares session name code _
  | some handle => exact used handle

/-- A failure stays laid up beside whatever else is done from outside, and gives way to the next one for
its name. -/
theorem control_control (session : Session) (name : String) (code : Int32) (control : Control) :
    (session.control (.fail name code)).control control =
      (session.control control).control
        (.fail name (((Instruction.control control).laid? name).getD code)) := by
  cases control with
  | fail call other =>
    simp only [control, library, withLibrary, Instruction.laid?]
    split
    next same =>
      subst same
      simp only [Option.getD_some, Library.failNext_failNext]
    next apart => simp only [Option.getD_none, Library.failNext_comm _ _ _ apart]
  | arrange arrangement times =>
    have added := session.boundary.addCopies_failNext name code arrangement times
    exact congrArg (fun boundary => { session with boundary }) added
  | _ => rfl

theorem perform_spares (session : Session) (name : String) (code : Int32) (slot : String)
    (instruction : Instruction) :
    ((session.control (.fail name code)).perform slot instruction).Spares
      (session.perform slot instruction) name ((instruction.laid? name).getD code) := by
  cases instruction with
  | control control =>
    intro _
    simp only [perform, control_control, quiet]
  | connect cluster | totals | commands => exact fun _ => rfl
  | setFlag mounted => exact withHandle_spares session slot fun _ _ => rfl
  | handle | attributes path => exact withHandle_spares session slot fun _ _ => rfl
  | describe | liveHandles => exact withMount_spares session slot fun _ _ => rfl
  | around request =>
    exact withHandle_spares session slot fun _ => run_spares session _ fun _ _ => rfl
  | create source =>
    exact (vacate_spares session name code slot).follow
      fun session => make_spares session name code slot source
  | operate operation =>
    exact withMount_spares session slot fun _ => run_spares session _ fun _ _ => rfl
  | release =>
    exact withMount_spares session slot fun _ =>
      run_spares { session with mounts := session.mounts.erase slot } _ fun _ _ => rfl
  | drop => exact withMount_spares session slot fun _ => vacate_spares session name code slot

theorem close_spares (session : Session) (name : String) (code : Int32) :
    (session.control (.fail name code)).close.Spares session.close name code := by
  let drop (turn : Turn) (slot : String) : Turn := turn.follow fun session => session.vacate slot
  have dropped (slots : List String) (failing plain : Turn) (spares : failing.Spares plain name code) :
      (slots.foldl drop failing).Spares (slots.foldl drop plain) name code := by
    induction slots generalizing failing plain with
    | nil => exact spares
    | cons slot rest ih => exact ih _ _ (spares.follow fun session => vacate_spares session name code slot)
  exact (dropped session.mounts.keys _ _ (quiet_spares session name code _)).follow
    fun session => quiet_spares session name code _

/-! Runs of steps. -/

variable {session : Session} {steps : List Step}

/-- Steps that make no call of the name report what they would without the failure, and leave it laid
up beside all that they would leave. -/
theorem after_spares (session : Session) (code : Int32)
    (without : Trace.Without name ((session.control (.fail name code)).trace steps)) :
    (session.control (.fail name code)).told steps = session.told steps ∧
      (session.control (.fail name code)).after steps =
        (session.after steps).control (.fail name (laidUp name code steps)) := by
  induction steps generalizing session code with
  | nil => exact ⟨rfl, rfl⟩
  | cons first rest ih =>
    obtain ⟨own, later⟩ := Trace.without_append.mp without
    have same := perform_spares session name code first.slot first.instruction own
    have stepped : (session.control (.fail name code)).step first =
        ((session.step first).1, (session.step first).2.control
          (.fail name ((first.instruction.laid? name).getD code))) := by
      rw [step, same]
      rfl
    rw [stepped] at later
    obtain ⟨told, left⟩ := ih (session.step first).2 _ later
    rw [Session.told, Session.told, after, after, stepped, told, left]
    exact ⟨rfl, rfl⟩

/-- A step lays nothing up for a name unless it says so. -/
theorem perform_unlaid (unlaid : session.boundary.Unlaid name) (slot : String)
    {instruction : Instruction} (free : instruction.laid? name = none) :
    (session.perform slot instruction).session.boundary.Unlaid name := by
  cases inside : instruction.isOutside with
  | false => exact (unlaid.leads (perform_answers session slot inside)).2
  | true =>
    cases instruction with
    | setFlag mounted =>
      exact withHandle_turn (motive := fun turn => turn.session.boundary.Unlaid name) slot unlaid
        fun _ => unlaid
    | control control =>
      cases control with
      | fail call code =>
        have apart : name ≠ call := fun same => by simp [Instruction.laid?, same] at free
        exact (Library.get?_failNext_of_ne apart).trans unlaid
      | arrange arrangement times =>
        have same := session.boundary.addCopies_library arrangement times
        exact (congrArg (fun library : Library => library.failures.get? name) same).trans unlaid
      | _ => exact unlaid
    | _ => cases inside

theorem after_unlaid (unlaid : session.boundary.Unlaid name)
    (free : ∀ step ∈ steps, step.instruction.laid? name = none) :
    (session.after steps).boundary.Unlaid name := by
  induction steps generalizing session with
  | nil => exact unlaid
  | cons first rest ih =>
    obtain ⟨own, later⟩ := List.forall_mem_cons.mp free
    exact ih (perform_unlaid unlaid first.slot own) later

theorem perform_struck (session : Session) {slot : String} {instruction : Instruction}
    (called : ¬Trace.Without name
      ((session.control (.fail name code)).perform slot instruction).entries) :
    ((session.control (.fail name code)).perform slot instruction).Struck name code
      (session.programs slot instruction) session.boundary := by
  cases inside : instruction.isOutside with
  | false =>
    have answers := (session.control (.fail name code)).perform_answers slot inside
    exact Arranged.strikes_of_leads answers called
  | true =>
    -- What is done from outside makes no call.
    refine absurd ?_ called
    cases instruction with
    | control control => exact Trace.without_nil name
    | setFlag mounted =>
      exact withHandle_turn (motive := fun turn => Trace.Without name turn.entries) slot
        (Trace.without_nil name) fun _ => Trace.without_nil name
    | _ => cases inside

/-- A failure that is laid up for a name strikes once, and touches nothing else.

The steps that make no call of the name report what they would without the failure, and leave it laid
up, or the one that took its place, beside all that they would leave. The next call of the name, whoever
makes it, answers the code, and changes nothing but the count of releases. So the step that comes next,
or the end of the session, makes no call of the name and is as it would be, or the failure strikes in one
of its programs. Once it has struck, and until another failure is laid up for the name, every call is
answered as if none could be. -/
theorem injection_strikes_once (session : Session) (name : String) (code : Int32) (steps : List Step)
    (without : Trace.Without name ((session.control (.fail name code)).trace steps)) :
    let laid := laidUp name code steps
    let failing := (session.control (.fail name code)).after steps
    let plain := session.after steps
    (session.control (.fail name code)).told steps = session.told steps ∧
      failing = plain.control (.fail name laid) ∧
      (∀ call : Call, call.Takes name plain.library →
        ∃ reply, call.FailsWith laid reply ∧
          Arranged.answer call failing.boundary = (.ok reply, plain.boundary.spend name)) ∧
      failing.close.Spares plain.close name laid ∧
      (¬Trace.Without name failing.close.entries →
        failing.close.Struck name laid plain.closing plain.boundary) ∧
      ∀ slot instruction,
        let turn := failing.perform slot instruction
        turn.Spares (plain.perform slot instruction) name ((instruction.laid? name).getD laid) ∧
          (¬Trace.Without name turn.entries →
            turn.Struck name laid (plain.programs slot instruction) plain.boundary ∧
              ∀ more : List Step, (∀ step ∈ more, step.instruction.laid? name = none) →
                let later := turn.session.after more
                later.boundary.Unlaid name ∧
                  later.close.Answers (Arranged.unfailing name) later.closing later.boundary ∧
                  ∀ slot instruction, instruction.isOutside = false →
                    (later.perform slot instruction).Answers (Arranged.unfailing name)
                      (later.programs slot instruction) later.boundary) := by
  intro laid failing plain
  obtain ⟨told, left⟩ := after_spares session code without
  change failing = plain.control (.fail name laid) at left
  refine ⟨told, left, ?_⟩
  rw [left]
  have closes := close_answers (plain.control (.fail name laid))
  refine ⟨fun call takes => Arranged.answer_failNext_of_takes plain.boundary laid takes,
    close_spares plain name laid, Arranged.strikes_of_leads closes, fun slot instruction => ?_⟩
  refine ⟨perform_spares plain name laid slot instruction, fun called => ?_⟩
  have struck := perform_struck plain called
  refine ⟨struck, fun more free => ?_⟩
  have unlaid := after_unlaid (Arranged.Strikes.unlaid struck) free
  exact ⟨unlaid, (unlaid.leads (close_answers _)).1, fun slot instruction inside =>
    (unlaid.leads (perform_answers _ slot inside)).1⟩

/-- A failure strikes while a mount is prepared, whose handle is released as it is dropped; one that
takes its place strikes with its own code. The first mount does not notice, and the next one is prepared
in full. -/
theorem preparation_injection_strikes_once :
    let start : Session := ({} : Session).control (.fail "conf_set" (-5))
    let steps : List Step :=
      [⟨"a", .create (.fresh none)⟩, ⟨"a", .operate .mount⟩,
        ⟨"a", .operate (.path (.make "d" 0o755))⟩]
    let prepare : Instruction := .create (.edits [.option "k" "v"])
    let failing := start.after steps
    let plain := ({} : Session).after steps
    Trace.Without "conf_set" (start.trace steps) ∧
      failing = plain.control (.fail "conf_set" (-5)) ∧
      (plain.perform "b" prepare).result = .answer .nothing ∧
      (failing.perform "b" prepare).result = .failed (.library ⟨-5⟩) ∧
      ((failing.control (.fail "conf_set" (-7))).perform "b" prepare).result =
        .failed (.library ⟨-7⟩) ∧
      ¬Trace.Without "conf_set" (failing.perform "b" prepare).entries ∧
      (failing.perform "b" prepare).Struck "conf_set" (-5) (plain.programs "b" prepare)
        plain.boundary ∧
      ((failing.perform "b" prepare).session.perform "b" prepare).result = .answer .nothing := by
  intro start steps prepare failing plain
  have without : Trace.Without "conf_set" (start.trace steps) := by decide +kernel
  have given : (plain.perform "b" prepare).result = .answer .nothing := by decide +kernel
  have failed : (failing.perform "b" prepare).result = .failed (.library ⟨-5⟩) := by decide +kernel
  have replaced : ((failing.control (.fail "conf_set" (-7))).perform "b" prepare).result =
      .failed (.library ⟨-7⟩) := by decide +kernel
  have again : ((failing.perform "b" prepare).session.perform "b" prepare).result =
      .answer .nothing := by decide +kernel
  have called : ¬Trace.Without "conf_set" (failing.perform "b" prepare).entries := by decide +kernel
  obtain ⟨-, left, -, -, -, turns⟩ := injection_strikes_once {} "conf_set" (-5) steps without
  exact ⟨without, left, given, failed, replaced, called, ((turns "b" prepare).2 called).1, again⟩

end Session

end CephMount
