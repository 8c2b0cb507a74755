import CephMount.Proofs.Session.Moves
import CephMount.Proofs.Session.Turns

/-! What a step of a session comes to, and a run of steps.

Every step that reaches the library through mounts is a row of moves, and no call of it is refused. So
what holds at the start and is kept by each move holds after every run.
-/

set_option autoImplicit false

namespace CephMount

open InMemory

/-- A row of moves of one step, with the handles that they make. -/
inductive Holding.Reaches (instruction : Instruction) (before : Holding) :
    List Handle → Holding → Prop where
  | none : Reaches instruction before [] before
  | move {made more : List Handle} {between after : Holding} :
      Reaches instruction before made between → between.Moves instruction more after →
      Reaches instruction before (made ++ more) after

namespace Holding.Reaches

variable {instruction : Instruction} {before between after : Holding} {made more : List Handle}

theorem one (moves : before.Moves instruction made after) : before.Reaches instruction made after :=
  .move .none moves

theorem trans (left : before.Reaches instruction made between)
    (right : between.Reaches instruction more after) :
    before.Reaches instruction (made ++ more) after := by
  induction right with
  | none =>
    rw [List.append_nil]
    exact left
  | move _ moves ih =>
    rw [← List.append_assoc]
    exact ih.move moves

/-- What each move keeps of a sound holding is kept by a row of them. -/
theorem keeps (invariant : List Handle → Holding → Prop) (earlier : List Handle)
    (reaches : before.Reaches instruction made after) (sound : before.Sound)
    (initial : invariant earlier before)
    (step : ∀ made between more after, Sound between → between.Moves instruction more after →
      invariant made between → invariant (made ++ more) after) :
    after.Sound ∧ invariant (earlier ++ made) after := by
  induction reaches with
  | none =>
    rw [List.append_nil]
    exact ⟨sound, initial⟩
  | move _ moves ih =>
    rw [← List.append_assoc]
    exact ⟨moves.sound ih.1, step _ _ _ _ ih.1 moves ih.2⟩

theorem sound (reaches : before.Reaches instruction made after) (sound : before.Sound) :
    after.Sound :=
  (reaches.keeps (fun _ _ => True) [] sound trivial fun _ _ _ _ _ _ _ => trivial).1

theorem advances (reaches : before.Reaches instruction made after) (sound : before.Sound) :
    Library.Advances made before.library after.library :=
  (reaches.keeps (fun made holding => Library.Advances made before.library holding.library) [] sound
    (.of_kept rfl fun _ alive => alive)
    fun _ _ _ _ sound moves advanced => advanced.trans (moves.advances sound)).2

end Holding.Reaches

namespace Session

/-- A turn that was not cut short: nothing was misused, and what it did is a row of moves. -/
structure Orderly (session : Session) (instruction : Instruction) (turn : Turn) : Prop where
  unmisused : ∀ misuse, turn.result ≠ .misused misuse
  direct : turn.session.Direct
  reaches : session.holding.Reaches instruction (Trace.made turn.entries) turn.session.holding

variable {session : Session} {instruction : Instruction}

theorem Orderly.follow {turn : Turn} (next : Session → Turn)
    (first : session.Orderly instruction turn)
    (rest : turn.session.Orderly instruction (next turn.session)) :
    session.Orderly instruction (turn.follow next) where
  unmisused := rest.unmisused
  direct := rest.direct
  reaches := by
    change Holding.Reaches _ _ (Trace.made (turn.entries ++ _)) _
    rw [Trace.made_append]
    exact first.reaches.trans rest.reaches

theorem quiet_orderly (direct : session.Direct) (result : Result)
    (unmisused : ∀ misuse, result ≠ .misused misuse) :
    session.Orderly instruction (session.quiet result) :=
  ⟨unmisused, direct, .none⟩

/-- A turn that runs a program which makes no handle, and then changes what is held. -/
theorem run_orderly {α : Type} {program : Program α} {out : α → Prop} {start : Session}
    {finish : Session → α → Session × Result} (direct : start.Direct)
    (unmaking : program.Within (fun call => call.creates = false) out)
    (meets : program.Meets Library.discipline start.library fun _ result after =>
      let finished := finish { start with boundary := { library := after } } result
      (∀ misuse, finished.2 ≠ .misused misuse) ∧ finished.1.Direct ∧
        session.holding.Moves instruction [] finished.1.holding) :
    session.Orderly instruction (start.run program finish) := by
  refine run_direct (motive := fun turn => session.Orderly instruction turn) direct
    ((meets.makesNone unmaking).mono fun entries result after left => ?_)
  obtain ⟨⟨unmisused, direct, moves⟩, unmade⟩ := left
  refine ⟨unmisused, direct, ?_⟩
  change Holding.Reaches _ _ (Trace.made entries) _
  rw [unmade]
  exact .one moves

theorem withMount_orderly (direct : session.Direct) (slot : String) {use : Mount → Turn}
    (orderly : ∀ mount, session.mounts.get? slot = some mount →
      session.Orderly instruction (use mount)) :
    session.Orderly instruction (session.withMount slot use) :=
  withMount_turn slot (quiet_orderly direct _ fun _ => Result.noConfusion) orderly

theorem withHandle_orderly (direct : session.Direct) (slot : String) {use : Handle → Turn}
    (orderly : ∀ handle, session.Orderly instruction (use handle)) :
    session.Orderly instruction (session.withHandle slot use) :=
  withHandle_turn slot (quiet_orderly direct _ fun _ => Result.noConfusion) orderly

theorem resultOf_unmisused (outcome : Outcome Answer) (misuse : Misuse) :
    resultOf outcome ≠ .misused misuse := by
  cases outcome <;> exact Result.noConfusion

theorem resultOfUnit_unmisused (outcome : Outcome Unit) (misuse : Misuse) :
    resultOfUnit outcome ≠ .misused misuse :=
  resultOf_unmisused _ misuse

theorem creation_unmisused {source : Source} {result : Result}
    (refused : session.creation source = .error result) (misuse : Misuse) :
    result ≠ .misused misuse := by
  cases source with
  | fresh id | edits edits => cases refused
  | cluster name =>
    simp only [creation] at refused
    cases found : session.clusters.get? name with
    | some number =>
      rw [found] at refused
      cases refused
    | none =>
      rw [found] at refused
      cases refused
      exact Result.noConfusion
  | text ron =>
    simp only [creation] at refused
    cases parsed : MountConfig.parse ron with
    | ok config =>
      rw [parsed] at refused
      cases refused
    | error fault =>
      rw [parsed] at refused
      cases refused
      exact Result.noConfusion

/-! Turns that end a mount. -/

/-- The handle of the mount outlives it only if its flag was not what the mount said or a failure was
laid up. -/
theorem ends_move {slot : String} {mount : Mount} {record : Record} {after : Library}
    (held : session.mounts.get? slot = some mount)
    (found : session.library.record? mount.handle = some record)
    (ends : Library.Ends mount.handle session.library after)
    (stays : session.library.FailuresFail → after.isLive mount.handle = true →
      (session.library.pending? .release).isSome = true ∨ session.library.stuck mount record = true) :
    session.holding.Moves instruction [] ⟨after, session.mounts.erase slot⟩ := by
  refine .ends held ends fun fail agrees alive => ?_
  rcases stays fail alive with pending | stuck
  · exact .inr pending
  · exact .inl (Library.unmount_pending_of_stuck found agrees stuck)

theorem vacate_orderly (direct : session.Direct) (sound : session.holding.Sound) (slot : String) :
    session.Orderly instruction (session.vacate slot) := by
  unfold vacate
  split
  · exact quiet_orderly direct _ fun _ => Result.noConfusion
  next mount held =>
    obtain ⟨record, found⟩ := sound.found held
    refine run_orderly direct mount.drop_within ((Library.drop_meets mount found).mono ?_)
    intro _ _ after dropped
    obtain ⟨ends, stays⟩ := dropped
    refine ⟨fun _ => Result.noConfusion, rfl, ends_move held found ends fun _ alive => ?_⟩
    exact (Bool.or_eq_true _ _).mp (stays.symm.trans alive)

theorem release_orderly (direct : session.Direct) (sound : session.holding.Sound) (slot : String) :
    session.Orderly instruction (session.perform slot .release) := by
  refine withMount_orderly direct slot fun mount held => ?_
  obtain ⟨record, found⟩ := sound.found held
  refine run_orderly direct mount.release_within ((Library.release_meets mount found).mono ?_)
  intro _ outcome after released
  obtain ⟨ends, exact⟩ := released
  refine ⟨resultOfUnit_unmisused outcome, rfl, ends_move held found ends fun fail alive => ?_⟩
  exact .inr ((exact fail).2.symm.trans alive)

/-! Turns that use a mount, or make one. -/

theorem operate_orderly (direct : session.Direct) (sound : session.holding.Sound) (slot : String)
    (operation : Operation) :
    session.Orderly instruction (session.perform slot (.operate operation)) := by
  refine withMount_orderly direct slot fun mount held => ?_
  have unmaking := (mount.perform_within operation).widen fun _ uses => uses.creates
  have performed := Library.perform_meets mount operation (sound.live slot mount held)
  refine run_orderly direct unmaking (performed.mono fun _ result after performs => ?_)
  exact ⟨resultOf_unmisused result.1, rfl, .performs held performs⟩

theorem make_orderly (direct : session.Direct) (sound : session.holding.Sound) {slot : String}
    (vacant : session.mounts.get? slot = none) (source : Source) :
    session.Orderly instruction (session.make slot source) := by
  unfold make
  split
  next result refused => exact quiet_orderly direct result (creation_unmisused refused)
  next creation accepted =>
    refine run_direct (motive := fun turn => session.Orderly instruction turn) direct
      ((Library.creation_meets creation sound.numbered).mono fun entries outcome after created => ?_)
    cases outcome with
    | error error => exact ⟨fun _ => Result.noConfusion, rfl, .one (.undoes created)⟩
    | ok mount => exact ⟨fun _ => Result.noConfusion, rfl, .one (.creates vacant created)⟩

/-! Any turn. -/

theorem vacate_mounts (direct : session.Direct) (sound : session.holding.Sound) (slot : String) :
    (session.vacate slot).session.mounts = session.mounts.erase slot := by
  unfold vacate
  split
  next vacant => exact (Table.erase_of_get?_eq_none vacant).symm
  next mount held =>
    obtain ⟨record, found⟩ := sound.found held
    exact run_direct (motive := fun turn => turn.session.mounts = session.mounts.erase slot) direct
      ((Library.drop_meets mount found).mono fun _ _ _ _ => rfl)

theorem perform_orderly (direct : session.Direct) (sound : session.holding.Sound) (slot : String)
    (through : instruction.throughMounts = true) :
    session.Orderly instruction (session.perform slot instruction) := by
  cases instruction with
  | control control =>
    cases control with
    | fail call code =>
      exact ⟨fun _ => Result.noConfusion, direct.withLibrary _, .one (.fails rfl)⟩
    | arrange arrangement times => cases through
    | _ =>
      exact ⟨fun _ => Result.noConfusion, direct.withLibrary _, .one (.surrounds rfl rfl rfl)⟩
  | setFlag mounted =>
    refine withHandle_orderly direct slot fun handle => ?_
    exact ⟨fun _ => Result.noConfusion, direct.withLibrary _, .one (.flags rfl)⟩
  | connect cluster => exact ⟨fun _ => Result.noConfusion, direct, .none⟩
  | totals | commands => exact quiet_orderly direct _ fun _ => Result.noConfusion
  | handle | attributes path =>
    exact withHandle_orderly direct slot fun _ => quiet_orderly direct _ fun _ => Result.noConfusion
  | describe | liveHandles =>
    exact withMount_orderly direct slot fun _ _ => quiet_orderly direct _ fun _ => Result.noConfusion
  | around request => cases through
  | create source =>
    have vacated : session.Orderly (.create source) (session.vacate slot) :=
      vacate_orderly direct sound slot
    refine vacated.follow (fun session => session.make slot source)
      (make_orderly vacated.direct (vacated.reaches.sound sound) ?_ source)
    -- The slot is vacant even if the drop of its mount left the handle live.
    rw [vacate_mounts direct sound slot, Table.get?_erase, if_pos rfl]
  | operate operation => exact operate_orderly direct sound slot operation
  | release => exact release_orderly direct sound slot
  | drop => exact withMount_orderly direct slot fun _ _ => vacate_orderly direct sound slot

theorem close_orderly (direct : session.Direct) (sound : session.holding.Sound) :
    session.Orderly .drop session.close := by
  refine close_turn (quiet_orderly direct _ fun _ => Result.noConfusion) ?_ ?_
  · intro turn slot orderly
    exact orderly.follow (fun session => session.vacate slot)
      (vacate_orderly orderly.direct (orderly.reaches.sound sound) slot)
  · intro turn orderly
    exact orderly.follow (fun session => session.quiet (.totals session.totals))
      ⟨fun _ => Result.noConfusion, orderly.direct, .none⟩

/-! Runs of steps. -/

def after (session : Session) : List Step → Session
  | [] => session
  | first :: rest => (session.step first).2.after rest

def trace (session : Session) : List Step → List Entry
  | [] => []
  | first :: rest => (session.step first).1.entries ++ (session.step first).2.trace rest

variable {steps : List Step}

theorem after_append (session : Session) (early late : List Step) :
    session.after (early ++ late) = (session.after early).after late := by
  induction early generalizing session with
  | nil => rfl
  | cons first rest ih => exact ih _

theorem after_keeps (invariant : List Handle → Holding → Prop) (made : List Handle)
    (direct : session.Direct) (sound : session.holding.Sound)
    (through : ∀ step ∈ steps, step.instruction.throughMounts = true)
    (initial : invariant made session.holding)
    (move : ∀ step ∈ steps, ∀ made between more after, Holding.Sound between →
      between.Moves step.instruction more after → invariant made between →
      invariant (made ++ more) after) :
    (session.after steps).Direct ∧ (session.after steps).holding.Sound ∧
      invariant (made ++ Trace.made (session.trace steps)) (session.after steps).holding := by
  induction steps generalizing session made with
  | nil =>
    refine ⟨direct, sound, ?_⟩
    rw [show Trace.made (session.trace []) = [] from rfl, List.append_nil]
    exact initial
  | cons first rest ih =>
    have orderly := perform_orderly direct sound first.slot (through first List.mem_cons_self)
    obtain ⟨sound, kept⟩ := orderly.reaches.keeps invariant made sound initial (move first List.mem_cons_self)
    rw [trace, Trace.made_append, ← List.append_assoc]
    exact ih (made ++ _) orderly.direct sound (fun step member => through step (List.mem_cons_of_mem _ member))
      kept fun step member => move step (List.mem_cons_of_mem _ member)

theorem start_direct : ({} : Session).Direct := rfl

theorem start_sound : ({} : Session).holding.Sound where
  numbered _ alive := nomatch alive
  live _ _ held := nomatch held
  apart _ _ _ _ held := nomatch held

theorem after_sound (through : ∀ step ∈ steps, step.instruction.throughMounts = true) :
    (({} : Session).after steps).Direct ∧ (({} : Session).after steps).holding.Sound :=
  have kept := after_keeps (fun _ _ => True) [] start_direct start_sound through trivial
    fun _ _ _ _ _ _ _ _ _ => trivial
  ⟨kept.1, kept.2.1⟩

theorem after_advances (direct : session.Direct) (sound : session.holding.Sound)
    (through : ∀ step ∈ steps, step.instruction.throughMounts = true) :
    Library.Advances (Trace.made (session.trace steps)) session.library
      (session.after steps).library :=
  (after_keeps (fun made holding => Library.Advances made session.library holding.library) []
    direct sound through (.of_kept rfl fun _ alive => alive)
    fun _ _ _ _ _ _ sound moves advanced => advanced.trans (moves.advances sound)).2.2

end Session

end CephMount
