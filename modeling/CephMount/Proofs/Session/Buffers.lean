import CephMount.Proofs.InMemory.Buffers
import CephMount.Proofs.Session.Safety

/-! The buffers of replies over whole sessions.

Nothing is arranged in front of the library, so every reply is the library's own. Requests around the
mounts are allowed, and so are handles that died by one: a command on such a handle gets no reply, and
no buffer.
-/

set_option autoImplicit false

namespace CephMount

open InMemory

/-- The step leaves every answer to the library. -/
def Instruction.unarranged : Instruction → Bool
  | .control (.arrange _ _) => false
  | _ => true

/-- No buffer is out, and as many came back as came with the replies among the entries. -/
def InMemory.Library.Settles (library : Library) (entries : List Entry) : Prop :=
  library.outstanding = 0 ∧ library.freedBuffers = Trace.buffers entries

namespace Session

/-- A turn after which the buffers that came with its replies are back. -/
structure Balances (session : Session) (turn : Turn) : Prop where
  direct : turn.session.Direct
  library : session.library.Balances turn.entries turn.session.library
  known : turn.result ≠ .misused .unknownBuffer

variable {session : Session} {steps : List Step}

theorem Balances.follow {turn : Turn} (next : Session → Turn) (first : session.Balances turn)
    (rest : turn.session.Balances (next turn.session)) : session.Balances (turn.follow next) where
  direct := rest.direct
  library := first.library.trans rest.library
  known := rest.known

theorem quiet_balances (direct : session.Direct) {result : Result}
    (known : result ≠ .misused .unknownBuffer) : session.Balances (session.quiet result) :=
  ⟨direct, .refl session.library, known⟩

/-- The turn that runs a program, also when a call of it is refused. -/
theorem run_balances {α : Type} {start : Session} {program : Program α}
    {finish : Session → α → Session × Result} (direct : start.Direct)
    (same : start.library = session.library) (balanced : program.Balanced)
    (finished : ∀ after result, (finish after result).1.boundary = after.boundary ∧
      (finish after result).2 ≠ .misused .unknownBuffer) :
    session.Balances (start.run program finish) := by
  have ⟨balances, known⟩ := balanced start.library
  rw [run_alone direct]
  generalize program.run Library.answer start.library = run at balances known ⊢
  obtain ⟨result, entries, after⟩ := run
  cases result with
  | error misuse =>
    refine ⟨rfl, same ▸ balances, fun unknown => known ?_⟩
    cases unknown
    rfl
  | ok value =>
    let left : Session := { start with boundary := { library := after } }
    obtain ⟨kept, plain⟩ := finished left value
    have library : (finish left value).1.library = after := congrArg Arranged.library kept
    constructor
    case direct =>
      change (finish left value).1.boundary = { library := (finish left value).1.library }
      rw [library, kept]
    case library =>
      change session.library.Balances entries (finish left value).1.library
      rw [library, ← same]
      exact balances
    case known => exact plain

theorem resultOf_known (outcome : Outcome Answer) : resultOf outcome ≠ .misused .unknownBuffer :=
  resultOf_unmisused outcome _

theorem vacate_balances (direct : session.Direct) (slot : String) :
    session.Balances (session.vacate slot) := by
  unfold vacate
  split
  · exact quiet_balances direct nofun
  next mount held => exact run_balances direct rfl mount.drop_balanced fun _ _ => ⟨rfl, nofun⟩

theorem make_balances (direct : session.Direct) (slot : String) (source : Source) :
    session.Balances (session.make slot source) := by
  unfold make
  split
  next result refused => exact quiet_balances direct (creation_unmisused refused _)
  next creation accepted =>
    refine run_balances direct rfl creation.program_balanced fun after outcome => ?_
    cases outcome with
    | error error => exact ⟨rfl, nofun⟩
    | ok mount => exact ⟨rfl, nofun⟩

theorem withMount_balances (direct : session.Direct) (slot : String) {use : Mount → Turn}
    (balances : ∀ mount, session.Balances (use mount)) :
    session.Balances (session.withMount slot use) :=
  withMount_turn slot (quiet_balances direct nofun) fun mount _ => balances mount

theorem withHandle_balances (direct : session.Direct) (slot : String) {use : Handle → Turn}
    (balances : ∀ handle, session.Balances (use handle)) :
    session.Balances (session.withHandle slot use) :=
  withHandle_turn slot (quiet_balances direct nofun) balances

theorem perform_balances (direct : session.Direct) (slot : String) {instruction : Instruction}
    (unarranged : instruction.unarranged = true) :
    session.Balances (session.perform slot instruction) := by
  cases instruction with
  | control control =>
    cases control with
    | arrange arrangement times => cases unarranged
    | _ => exact ⟨direct.withLibrary _, ⟨rfl, rfl⟩, nofun⟩
  | connect cluster => exact ⟨direct, .refl session.library, nofun⟩
  | totals | commands => exact quiet_balances direct nofun
  | setFlag mounted =>
    exact withHandle_balances direct slot fun _ => ⟨direct.withLibrary _, ⟨rfl, rfl⟩, nofun⟩
  | handle | attributes path =>
    exact withHandle_balances direct slot fun _ => quiet_balances direct nofun
  | describe | liveHandles =>
    exact withMount_balances direct slot fun _ => quiet_balances direct nofun
  | around request =>
    refine withHandle_balances direct slot fun handle => ?_
    have asked : (Program.perform (.request handle request)).Within Call.Bare fun _ => True :=
      ⟨trivial, fun _ => trivial⟩
    exact run_balances direct rfl asked.balanced fun _ _ => ⟨rfl, nofun⟩
  | create source =>
    have vacated := vacate_balances direct slot
    exact vacated.follow (fun session => session.make slot source)
      (make_balances vacated.direct slot source)
  | operate operation =>
    exact withMount_balances direct slot fun mount =>
      run_balances direct rfl (mount.perform_balanced operation) fun _ result =>
        ⟨rfl, resultOf_known result.1⟩
  | release =>
    exact withMount_balances direct slot fun mount =>
      run_balances direct rfl mount.release_balanced fun _ _ => ⟨rfl, resultOf_known _⟩
  | drop => exact withMount_balances direct slot fun _ => vacate_balances direct slot

theorem close_balances (direct : session.Direct) : session.Balances session.close := by
  refine close_turn (quiet_balances direct nofun) ?_ ?_
  · intro turn slot balances
    exact balances.follow (fun session => session.vacate slot)
      (vacate_balances balances.direct slot)
  · intro turn balances
    exact balances.follow (fun session => session.quiet (.totals session.totals))
      (quiet_balances balances.direct nofun)

/-- What each turn balances a run of steps balances. -/
theorem after_balances (direct : session.Direct)
    (unarranged : ∀ step ∈ steps, step.instruction.unarranged = true) :
    (session.after steps).Direct ∧
      session.library.Balances (session.trace steps) (session.after steps).library := by
  induction steps generalizing session with
  | nil => exact ⟨direct, .refl session.library⟩
  | cons first rest ih =>
    have turn := perform_balances direct first.slot (unarranged first List.mem_cons_self)
    have ⟨later, balances⟩ := ih turn.direct fun step member =>
      unarranged step (List.mem_cons_of_mem first member)
    exact ⟨later, turn.library.trans balances⟩

theorem reports_known (direct : session.Direct)
    (unarranged : ∀ step ∈ steps, step.instruction.unarranged = true) (report : Report)
    (member : report ∈ session.reports steps) : report.result ≠ .misused .unknownBuffer := by
  induction steps generalizing session with
  | nil =>
    cases List.mem_singleton.mp member
    exact (close_balances direct).known
  | cons first rest ih =>
    have turn := perform_balances direct first.slot (unarranged first List.mem_cons_self)
    rcases List.mem_cons.mp member with rfl | member
    · exact turn.known
    · exact ih turn.direct (fun step member => unarranged step (List.mem_cons_of_mem first member))
        member

/-- After every step of a session, and after its end, no buffer is out, and as many came back as came
with the replies to all commands. No buffer is ever freed that is not out. -/
theorem buffers_balance (steps : List Step)
    (unarranged : ∀ step ∈ steps, step.instruction.unarranged = true) :
    (∀ early late, steps = early ++ late →
      (({} : Session).after early).library.Settles (({} : Session).trace early)) ∧
      (({} : Session).after steps).close.session.library.Settles
        ((({} : Session).reports steps).flatMap Report.entries) ∧
      ∀ report ∈ ({} : Session).reports steps, report.result ≠ .misused .unknownBuffer := by
  have settles {entries : List Entry} {library : Library}
      (balances : ({} : Session).library.Balances entries library) : library.Settles entries :=
    ⟨congrArg List.length balances.live, balances.freed.trans (Nat.zero_add _)⟩
  refine ⟨?_, ?_, reports_known start_direct unarranged⟩
  · rintro early late rfl
    exact settles (after_balances start_direct fun step member =>
      unarranged step (List.mem_append_left late member)).2
  · have ⟨direct, balances⟩ := after_balances start_direct unarranged
    rw [reports_entries]
    exact settles (balances.trans (close_balances direct).library)

/-- Two mounts send commands: before they are mounted, with a script for them and without one, with a
reply that fails, and without any words. One is released around its mount and sends another. -/
theorem released_buffers_balance :
    let steps : List Step :=
      [⟨"a", .create (.fresh none)⟩, ⟨"b", .create (.fresh none)⟩,
        ⟨"", .control (.script ⟨"mds.a", [[102, 115]], 0, [1, 2], "done"⟩)⟩,
        ⟨"", .control (.script ⟨"mds.b", [[102, 115]], -5, [], "failed"⟩)⟩,
        ⟨"a", .operate (.command ⟨"mds.a", [[102, 115]], none⟩)⟩, ⟨"a", .operate .mount⟩,
        ⟨"a", .operate (.command ⟨"mds.a", [[102, 115]], some [0]⟩)⟩,
        ⟨"a", .operate (.command ⟨"mds.b", [[102, 115]], none⟩)⟩,
        ⟨"a", .operate (.command ⟨"mds.a", [], none⟩)⟩, ⟨"b", .around .release⟩,
        ⟨"b", .operate (.command ⟨"mds.a", [[102, 115]], none⟩)⟩]
    (∀ step ∈ steps, step.instruction.unarranged = true) ∧
      Trace.buffers (({} : Session).trace steps) = 3 ∧
      (({} : Session).after steps).library.Settles (({} : Session).trace steps) :=
  have unarranged := by decide
  ⟨unarranged, by decide +kernel, (buffers_balance _ unarranged).1 _ [] (List.append_nil _).symm⟩

end Session

end CephMount
