import CephMount.Proofs.Mount.Calls
import CephMount.Proofs.Trace

/-! The end of a mount, by release or by drop, over a boundary that may answer anything.

A drop unmounts exactly a mount that is tracked as mounted, and then releases once. A release that is
refused is followed by a drop. So the last call is a release, and at most one refused release stands
before it.
-/

set_option autoImplicit false

namespace CephMount

variable {σ : Type}

/-- A request on the handle, of any kind. -/
def Call.Asks (handle : Handle) : Call → Prop
  | .request holder _ => holder = handle
  | _ => False

theorem Call.Asks.creates {handle : Handle} {call : Call} (asks : call.Asks handle) :
    call.creates = false := by
  cases call with
  | request holder request => rfl
  | _ => cases asks

theorem Call.Asks.plain {handle : Handle} {call : Call} (asks : call.Asks handle) :
    call.Plain handle := by
  cases call with
  | request holder request => exact asks
  | _ => cases asks

/-- How the life of a mount ends. -/
inductive Ending where
  | release
  | drop
  deriving DecidableEq, Repr

def Ending.program : Ending → Mount → Program (Outcome Unit)
  | release, mount => mount.release
  | drop, mount => do
    mount.drop
    return .ok ()

namespace Mount

/-- A request on the mount's handle, as it stands in a trace. -/
def asked (mount : Mount) (request : Request) (code : Int32) : Entry :=
  .called (.request mount.handle request) code

/-- The calls of a drop: an unmount exactly if the mount is tracked as mounted, and one release. -/
def DropCalls (mount : Mount) (calls : List Entry) : Prop :=
  if mount.state = .mounted then
    ∃ first last, calls = [mount.asked .unmount first, mount.asked .release last]
  else ∃ last, calls = [mount.asked .release last]

/-- The calls of a release: one that is granted, or one that is refused and then those of a drop. -/
def ReleaseCalls (mount : Mount) (calls : List Entry) : Prop :=
  calls = [mount.asked .release 0] ∨
    ∃ code rest, code ≠ 0 ∧ calls = mount.asked .release code :: rest ∧ mount.DropCalls rest

end Mount

def Ending.Calls : Ending → Mount → List Entry → Prop
  | release => Mount.ReleaseCalls
  | drop => Mount.DropCalls

namespace Mount

def reportUnmounted (mount : Mount) (code : Int32) : Program Unit :=
  match check code with
  | .ok () => return ()
  | .error error => Program.report (.droppedUnmountFailed mount.handle error)

def reportReleased (mount : Mount) (code : Int32) : Program Unit :=
  match check code with
  | .ok () => Program.report (.droppedReleased mount.handle)
  | .error error => Program.report (.droppedReleaseFailed mount.handle error)

/-- The unmount of a drop, whose failure is reported and goes no further. -/
def dropUnmount (mount : Mount) : Program Unit := (mount.ask .unmount).bind mount.reportUnmounted

/-- The release with which every drop ends. -/
def dropRelease (mount : Mount) : Program Unit := (mount.ask .release).bind mount.reportReleased

theorem drop_eq (mount : Mount) :
    mount.drop =
      if mount.state = .mounted then mount.dropUnmount.bind fun () => mount.dropRelease
      else mount.dropRelease := by
  obtain ⟨handle, state⟩ := mount
  cases state with
  | mounted =>
    -- The code of the unmount decides what is reported, not how the drop goes on.
    refine congrArg (Program.call _) (funext fun code => ?_)
    simp only [Program.bind, reportUnmounted]
    cases check code <;> rfl
  | allocated | configured | unmounted => rfl

theorem release_eq (mount : Mount) :
    mount.release = (mount.ask .release).bind fun code =>
      if code = 0 then .log (.released mount.handle) (.done (.ok ()))
      else .log (.releaseRefused mount.handle code) <| .log (.callFailed "release" ⟨code⟩) <|
        mount.drop.bind fun () => .done (.error (.library ⟨code⟩)) := by
  refine congrArg (Program.call _) (funext fun code => ?_)
  change (if code = 0 then _ else _ : Program _) = if code = 0 then _ else _
  by_cases granted : code = 0
  · rw [if_pos granted, if_pos granted]
    rfl
  · rw [if_neg granted, if_neg granted]
    simp only [checkedCode_of_ne _ granted]
    rfl

theorem reportUnmounted_within {allowed : Call → Prop} (mount : Mount) (code : Int32) :
    (mount.reportUnmounted code).Within allowed fun _ => True := by
  unfold reportUnmounted
  cases check code <;> exact trivial

theorem reportReleased_within {allowed : Call → Prop} (mount : Mount) (code : Int32) :
    (mount.reportReleased code).Within allowed fun _ => True := by
  unfold reportReleased
  cases check code <;> exact trivial

/-- Reports call nothing. -/
theorem reportUnmounted_meets {discipline : Discipline σ} (mount : Mount) (code : Int32) (state : σ) :
    (mount.reportUnmounted code).Meets discipline state fun entries _ after =>
      Trace.calls entries = [] ∧ after = state := by
  unfold reportUnmounted
  cases check code <;> exact ⟨rfl, rfl⟩

theorem reportReleased_meets {discipline : Discipline σ} (mount : Mount) (code : Int32) (state : σ) :
    (mount.reportReleased code).Meets discipline state fun entries _ after =>
      Trace.calls entries = [] ∧ after = state := by
  unfold reportReleased
  cases check code <;> exact ⟨rfl, rfl⟩

/-- A drop unmounts and releases, and calls nothing else. -/
theorem drop_calls_within {allowed : Call → Prop} (mount : Mount)
    (unmounts : allowed (.request mount.handle .unmount))
    (releases : allowed (.request mount.handle .release)) :
    mount.drop.Within allowed fun _ => True := by
  have released : mount.dropRelease.Within allowed fun _ => True :=
    ⟨releases, fun code => mount.reportReleased_within code⟩
  rw [drop_eq]
  split
  · refine (Program.within_bind ..).mpr ⟨unmounts, fun code => ?_⟩
    exact (mount.reportUnmounted_within code).mono fun _ _ => released
  · exact released

/-- So does a release. -/
theorem release_calls_within {allowed : Call → Prop} (mount : Mount)
    (unmounts : allowed (.request mount.handle .unmount))
    (releases : allowed (.request mount.handle .release)) :
    mount.release.Within allowed fun _ => True := by
  rw [release_eq]
  refine ⟨releases, fun code => ?_⟩
  change Program.Within _ _ (if code = 0 then _ else _)
  split
  · exact trivial
  · exact (Program.within_bind ..).mpr (mount.drop_calls_within unmounts releases)

/-- A drop makes requests on the mount's own handle and no other calls. -/
theorem drop_asks (mount : Mount) :
    mount.drop.Within (Call.Asks mount.handle) fun _ => True :=
  mount.drop_calls_within rfl rfl

theorem release_asks (mount : Mount) :
    mount.release.Within (Call.Asks mount.handle) fun _ => True :=
  mount.release_calls_within rfl rfl

theorem drop_within (mount : Mount) :
    mount.drop.Within (fun call => call.creates = false) fun _ => True :=
  mount.drop_asks.widen fun _ asks => asks.creates

theorem release_within (mount : Mount) :
    mount.release.Within (fun call => call.creates = false) fun _ => True :=
  mount.release_asks.widen fun _ asks => asks.creates

variable (answers : Answers σ)

theorem dropUnmount_calls (mount : Mount) (state : σ) :
    mount.dropUnmount.Meets (.answering answers) state
      fun entries _ _ => ∃ code, Trace.calls entries = [mount.asked .unmount code] := by
  apply (Program.meets_call_answering ..).mpr
  apply (mount.reportUnmounted_meets _ _).mono
  intro entries _ _ silent
  exact ⟨_, congrArg (List.cons _) silent.1⟩

theorem dropRelease_calls (mount : Mount) (state : σ) :
    mount.dropRelease.Meets (.answering answers) state
      fun entries _ _ => ∃ code, Trace.calls entries = [mount.asked .release code] := by
  apply (Program.meets_call_answering ..).mpr
  apply (mount.reportReleased_meets _ _).mono
  intro entries _ _ silent
  exact ⟨_, congrArg (List.cons _) silent.1⟩

theorem drop_calls (mount : Mount) (state : σ) :
    mount.drop.Meets (.answering answers) state
      fun entries _ _ => mount.DropCalls (Trace.calls entries) := by
  rw [drop_eq]
  unfold DropCalls
  by_cases mounted : mount.state = .mounted
  · simp only [mounted, if_true, Program.meets_bind]
    apply (mount.dropUnmount_calls answers state).mono
    intro early _ between first
    apply (mount.dropRelease_calls answers between).mono
    intro late _ _ last
    obtain ⟨first, unmounted⟩ := first
    obtain ⟨last, released⟩ := last
    exact ⟨first, last, by rw [Trace.calls_append, unmounted, released]; rfl⟩
  · simp only [mounted, if_false]
    exact mount.dropRelease_calls answers state

theorem release_calls (mount : Mount) (state : σ) :
    mount.release.Meets (.answering answers) state
      fun entries _ _ => mount.ReleaseCalls (Trace.calls entries) := by
  rw [release_eq]
  apply (Program.meets_call_answering ..).mpr
  generalize (answers (.request mount.handle .release) state).2 = between
  generalize (answers (.request mount.handle .release) state).1 = code
  change Program.Meets _ (if code = 0 then _ else _) _ _
  by_cases granted : code = 0
  · rw [if_pos granted]
    exact .inl (granted ▸ rfl)
  · rw [if_neg granted]
    simp only [Program.meets_log, Program.meets_bind, Program.meets_done]
    apply (mount.drop_calls answers between).mono
    intro entries _ _ dropped
    exact .inr ⟨code, Trace.calls entries, granted, by simp [asked], dropped⟩

theorem end_calls (ending : Ending) (mount : Mount) (state : σ) :
    (ending.program mount).Meets (.answering answers) state
      fun entries _ _ => ending.Calls mount (Trace.calls entries) := by
  cases ending with
  | release => exact mount.release_calls answers state
  | drop =>
    rw [Ending.program, Program.bind_eq_bind, Program.meets_bind]
    apply (mount.drop_calls answers state).mono
    intro entries _ _ dropped
    simpa only [Program.pure_eq_done, Program.meets_done, List.append_nil, Ending.Calls]
      using dropped

end Mount

/-! What the calls of an end come to. -/

/-- The last call of an end is a release, behind at most one that was refused. -/
theorem Ending.Calls.last_is_release {ending : Ending} {mount : Mount} {calls : List Entry}
    (ends : ending.Calls mount calls) :
    ∃ early code, calls = early ++ [mount.asked .release code] ∧
      (Trace.releases mount.handle early).length ≤ 1 ∧
      0 ∉ Trace.releases mount.handle early := by
  -- The calls of a drop are also the last ones of a release that was refused.
  have dropped {calls : List Entry} (drop : mount.DropCalls calls) :
      ∃ early code, calls = early ++ [mount.asked .release code] ∧
        Trace.releases mount.handle early = [] := by
    unfold Mount.DropCalls at drop
    split at drop
    · obtain ⟨first, last, rfl⟩ := drop
      exact ⟨[mount.asked .unmount first], last, rfl, rfl⟩
    · obtain ⟨last, rfl⟩ := drop
      exact ⟨[], last, rfl, rfl⟩
  cases ending with
  | drop =>
    obtain ⟨early, code, rfl, none⟩ := dropped ends
    exact ⟨early, code, rfl, by simp [none], by simp [none]⟩
  | release =>
    rcases ends with granted | ⟨refusal, rest, nonzero, rfl, drop⟩
    · exact ⟨[], 0, granted, Nat.zero_le _, List.not_mem_nil⟩
    · obtain ⟨early, code, rfl, none⟩ := dropped drop
      have one : Trace.releases mount.handle (mount.asked .release refusal :: early) = [refusal] := by
        rw [← none]
        simp [Trace.releases, Mount.asked, Entry.releaseCode?]
      refine ⟨mount.asked .release refusal :: early, code, rfl, by simp [one], ?_⟩
      rw [one]
      exact fun zero => nonzero (List.mem_singleton.mp zero).symm

/-- An end makes requests on the handle and no other calls. -/
theorem Ending.Calls.asked {ending : Ending} {mount : Mount} {calls : List Entry}
    (ends : ending.Calls mount calls) {entry : Entry} (member : entry ∈ calls) :
    ∃ request code, entry = mount.asked request code := by
  have dropped {calls : List Entry} (drop : mount.DropCalls calls) (member : entry ∈ calls) :
      ∃ request code, entry = mount.asked request code := by
    unfold Mount.DropCalls at drop
    split at drop
    · obtain ⟨first, last, rfl⟩ := drop
      rcases List.mem_cons.mp member with rfl | member
      · exact ⟨_, _, rfl⟩
      · exact ⟨_, _, List.mem_singleton.mp member⟩
    · obtain ⟨last, rfl⟩ := drop
      exact ⟨_, _, List.mem_singleton.mp member⟩
  cases ending with
  | drop => exact dropped ends member
  | release =>
    rcases ends with rfl | ⟨refusal, rest, -, rfl, drop⟩
    · exact ⟨_, _, List.mem_singleton.mp member⟩
    · rcases List.mem_cons.mp member with rfl | member
      · exact ⟨_, _, rfl⟩
      · exact dropped drop member

end CephMount
