import CephMount.Proofs.Mount.Reports
import CephMount.Proofs.Session.Agreement

/-! The library's flags beside the tracked states.

In a session whose failures are failures and in which nobody sets a flag behind the mounts' backs, the
two say the same after every step. So asking for the flag gives what is tracked, and no disagreement
is ever reported.
-/

set_option autoImplicit false

namespace CephMount

open InMemory

namespace InMemory

theorem Agrees.record {mount : Mount} {library : Library} (agrees : Agrees mount library) :
    ∃ record, library.record? mount.handle = some record ∧ record.mounted = mount.state.isMounted :=
  Option.map_eq_some_iff.mp agrees

/-- While the two agree, asking gives what is tracked and has nothing to report. -/
theorem Library.isMounted_meets {mount : Mount} {library : Library} (agrees : Agrees mount library) :
    (mount.perform .isMounted).Meets discipline library fun entries result _ =>
      result.1 = .ok (.flag mount.state.isMounted) ∧ ∀ event, .reported event ∉ entries := by
  obtain ⟨record, found, same⟩ := agrees.record
  have live : library.isLive mount.handle = true := isLive_of_found found
  obtain ⟨code, after, answered, serves⟩ := request_serves .isMounted found fun _ => Request.noConfusion
  have native : (code == 1) = mount.state.isMounted := by
    rw [← same]
    cases serves with
    | failed pending => cases pending
    | refused pending refused => cases refused
    | served pending served =>
      rw [answerCode]
      cases record.mounted <;> rfl
  refine ⟨fun _ onHandle => Option.some.inj onHandle ▸ live, code, after, answered, ?_⟩
  simp only [Program.bind_eq_bind, Program.bind, Program.pure_eq_done, native, bne_self_eq_false,
    Bool.false_eq_true, if_false, Program.meets_done, true_and]
  intro event member
  cases List.mem_singleton.mp member

end InMemory

/-- No disagreement between a flag and a tracked state is reported. -/
def Trace.Undisputed (entries : List Entry) : Prop :=
  ∀ handle state native, .reported (.flagDisagrees handle state native) ∉ entries

theorem Trace.Undisputed.append {first rest : List Entry} (left : Undisputed first)
    (right : Undisputed rest) : Undisputed (first ++ rest) :=
  fun handle state native member =>
    (List.mem_append.mp member).elim (left handle state native) (right handle state native)

namespace Session

variable {session : Session} {steps : List Step}

open Trace (Undisputed)

theorem quiet_undisputed (session : Session) (result : Result) :
    Undisputed (session.quiet result).entries :=
  fun _ _ _ => List.not_mem_nil

/-- A program that may report no disagreement reports none in a turn, even one that is cut short. -/
theorem run_undisputed {α : Type} {program : Program α} {allowed : Event → Bool}
    (reports : program.Reports fun event => allowed event = true)
    (plain : ∀ handle state native, allowed (.flagDisagrees handle state native) = false)
    (session : Session) (finish : Session → α → Session × Result) :
    Undisputed (session.run program finish).entries := by
  have entries : (session.run program finish).entries =
      (program.run Arranged.answer session.boundary).entries := by
    unfold run
    dsimp only
    split <;> rfl
  intro handle state native member
  rw [entries] at member
  exact Bool.noConfusion ((plain handle state native).symm.trans (reports.of_run _ _ member))

theorem vacate_undisputed (session : Session) (slot : String) :
    Undisputed (session.vacate slot).entries := by
  unfold vacate
  split
  · exact quiet_undisputed session _
  · exact run_undisputed (Mount.drop_reports _) (fun _ _ _ => rfl) _ _

theorem make_undisputed (session : Session) (slot : String) (source : Source) :
    Undisputed (session.make slot source).entries := by
  unfold make
  split
  · exact quiet_undisputed session _
  · exact run_undisputed (Creation.program_reports _) (fun _ _ _ => rfl) _ _

theorem withMount_undisputed (session : Session) (slot : String) {use : Mount → Turn}
    (undisputed : ∀ mount, session.mounts.get? slot = some mount → Undisputed (use mount).entries) :
    Undisputed (session.withMount slot use).entries :=
  withMount_turn (motive := fun turn => Undisputed turn.entries) slot (quiet_undisputed session _)
    undisputed

theorem withHandle_undisputed (session : Session) (slot : String) {use : Handle → Turn}
    (undisputed : ∀ handle, Undisputed (use handle).entries) :
    Undisputed (session.withHandle slot use).entries :=
  withHandle_turn (motive := fun turn => Undisputed turn.entries) slot (quiet_undisputed session _)
    undisputed

theorem isMounted_turn (direct : session.Direct) {slot : String} {mount : Mount}
    (held : session.mounts.get? slot = some mount) (agrees : Agrees mount session.library) :
    (session.perform slot (.operate .isMounted)).result = .answer (.flag mount.state.isMounted) ∧
      Undisputed (session.perform slot (.operate .isMounted)).entries := by
  simp only [perform, withMount, held]
  refine run_direct (motive := fun turn => turn.result = _ ∧ Undisputed turn.entries) direct
    ((Library.isMounted_meets agrees).mono fun entries result _ told => ?_)
  exact ⟨congrArg resultOf told.1, fun _ _ _ => told.2 _⟩

theorem perform_undisputed (direct : session.Direct) (agreeing : session.holding.Agreeing)
    (slot : String) {instruction : Instruction} (through : instruction.throughMounts = true) :
    Undisputed (session.perform slot instruction).entries := by
  cases instruction with
  | control control => exact quiet_undisputed _ _
  | connect cluster | totals | commands => exact quiet_undisputed _ _
  | setFlag mounted | handle | attributes path =>
    exact withHandle_undisputed session slot fun _ => quiet_undisputed _ _
  | describe | liveHandles =>
    exact withMount_undisputed session slot fun _ _ => quiet_undisputed _ _
  | around request => cases through
  | create source =>
    exact (vacate_undisputed session slot).append (make_undisputed _ slot source)
  | operate operation =>
    by_cases asks : operation = .isMounted
    · subst asks
      cases held : session.mounts.get? slot with
      | none =>
        simp only [perform, withMount, held]
        exact quiet_undisputed session _
      | some mount => exact (isMounted_turn direct held (agreeing slot mount held)).2
    · refine withMount_undisputed session slot fun mount _ => ?_
      refine run_undisputed (mount.perform_reports operation) (fun _ _ _ => ?_) session _
      cases operation <;> first | rfl | exact absurd rfl asks
  | release =>
    exact withMount_undisputed session slot fun mount _ =>
      run_undisputed mount.release_reports (fun _ _ _ => rfl) _ _
  | drop => exact withMount_undisputed session slot fun _ _ => vacate_undisputed session slot

theorem close_undisputed (session : Session) : Undisputed session.close.entries :=
  close_turn (motive := fun turn => Undisputed turn.entries) (quiet_undisputed session _)
    (fun turn slot undisputed => undisputed.append (vacate_undisputed turn.session slot))
    fun _ undisputed => undisputed.append (quiet_undisputed _ _)

/-- Every report is that of a step, in the session that the steps before it left, or of the end. -/
theorem mem_reports {report : Report} (member : report ∈ session.reports steps) :
    (∃ early step late, steps = early ++ step :: late ∧
      report = ((session.after early).step step).1) ∨
      report.entries = (session.after steps).close.entries := by
  induction steps generalizing session with
  | nil =>
    cases List.mem_singleton.mp member
    exact .inr rfl
  | cons first rest ih =>
    rcases List.mem_cons.mp member with rfl | member
    · exact .inl ⟨[], first, rest, rfl, rfl⟩
    · rcases ih member with ⟨early, step, late, split, same⟩ | same
      · exact .inl ⟨first :: early, step, late, congrArg (List.cons first) split, same⟩
      · exact .inr same

/-- After every step each mount that is held is tracked as mounted exactly if its handle's flag is set.
Asking for the flag gives what is tracked, and no disagreement is reported in the whole session. -/
theorem flags_agree (steps : List Step)
    (through : ∀ step ∈ steps, step.instruction.throughMounts = true)
    (honest : ∀ step ∈ steps, step.instruction.failsHonestly = true)
    (unset : ∀ step ∈ steps, step.instruction.setsFlag = false) :
    (∀ early late, steps = early ++ late →
      let session := ({} : Session).after early
      ∀ slot mount, session.mounts.get? slot = some mount →
        (∃ record, session.library.record? mount.handle = some record ∧
          (record.mounted = true ↔ mount.state = .mounted)) ∧
        (session.perform slot (.operate .isMounted)).result =
          .answer (.flag mount.state.isMounted)) ∧
    ∀ report ∈ ({} : Session).reports steps, Undisputed report.entries := by
  have prefixes {early late : List Step} (split : steps = early ++ late) :
      (({} : Session).after early).Direct ∧ (({} : Session).after early).holding.Agreeing := by
    have sub (step : Step) (member : step ∈ early) : step ∈ steps :=
      split ▸ List.mem_append_left late member
    have throughEarly step member := through step (sub step member)
    have accounted := after_accounted throughEarly (fun step member => honest step (sub step member))
      fun step member => unset step (sub step member)
    exact ⟨(after_sound throughEarly).1, accounted.agreeing⟩
  refine ⟨fun early late split => ?_, fun report member => ?_⟩
  · intro session slot mount held
    obtain ⟨direct, agreeing⟩ := prefixes split
    have agrees := agreeing slot mount held
    obtain ⟨record, found, same⟩ := agrees.record
    refine ⟨⟨record, found, ?_⟩, (isMounted_turn direct held agrees).1⟩
    rw [same]
    cases mount.state <;> simp [MountState.isMounted]
  · rcases mem_reports member with ⟨early, step, late, split, rfl⟩ | closed
    · obtain ⟨direct, agreeing⟩ := prefixes split
      have member : step ∈ steps := split ▸ List.mem_append_right early List.mem_cons_self
      exact perform_undisputed direct agreeing step.slot (through step member)
    · rw [closed]
      exact close_undisputed _

/-- Two mounts, of which one is mounted again after an unmount failed and another one succeeded, while
the other fails to mount. -/
theorem remounted_flags_agree :
    let steps : List Step :=
      [⟨"a", .create (.fresh none)⟩, ⟨"b", .create (.fresh (some "client"))⟩,
        ⟨"", .control (.fail "mount" (-5))⟩, ⟨"b", .operate .mount⟩, ⟨"a", .operate .mount⟩,
        ⟨"", .control (.fail "unmount" (-110))⟩, ⟨"a", .operate .unmount⟩,
        ⟨"a", .operate .unmount⟩, ⟨"a", .operate .mount⟩, ⟨"b", .operate .isMounted⟩]
    let session := ({} : Session).after steps
    (∀ step ∈ steps, step.instruction.throughMounts = true) ∧
      (∀ step ∈ steps, step.instruction.failsHonestly = true) ∧
      (∀ step ∈ steps, step.instruction.setsFlag = false) ∧
      (session.perform "a" (.operate .isMounted)).result = .answer (.flag true) ∧
      (session.perform "b" (.operate .isMounted)).result = .answer (.flag false) ∧
      ∀ report ∈ ({} : Session).reports steps, Undisputed report.entries :=
  have through := by decide
  have honest := by decide
  have unset := by decide
  have agree := flags_agree _ through honest unset
  have last := agree.1 _ [] (List.append_nil _).symm
  ⟨through, honest, unset, (last "a" ⟨⟨1⟩, .mounted⟩ (by decide)).2,
    (last "b" ⟨⟨2⟩, .allocated⟩ (by decide)).2, agree.2⟩

end Session

end CephMount
