import CephMount.Proofs.Mount.Opening

/-! The whole life of one mount: how it is made, what is done with it, and how it ends.

The boundary is any that answers every call. Main statement: the end of a life releases the handle,
once when the first release is granted and otherwise once more after a drop, and the handle is not
called again. A preparation that fails ends the life of a mount that its caller never held.
-/

set_option autoImplicit false

namespace CephMount

variable {σ : Type}

/-- Operations one after the other, whatever becomes of each. -/
def Mount.performAll (mount : Mount) : List Operation → Program (List (Outcome Answer) × Mount)
  | [] => return ([], mount)
  | operation :: rest => do
    let (outcome, mount) ← mount.perform operation
    let (outcomes, mount) ← mount.performAll rest
    return (outcome :: outcomes, mount)

structure Life where
  creation : Creation
  operations : List Operation
  ending : Ending
  deriving DecidableEq, Repr

/-- What a life gave its holder, with the mount as it stood when the life was ended. -/
structure Life.Outcomes where
  operations : List (Outcome Answer)
  mount : Mount
  ending : Outcome Unit

def Life.program (life : Life) : Program (Outcome Life.Outcomes) := do
  match ← life.creation.program with
  | .error error => return .error error
  | .ok mount => do
    let (operations, mount) ← mount.performAll life.operations
    return .ok ⟨operations, mount, ← life.ending.program mount⟩

namespace Mount

theorem performAll_within (mount : Mount) (operations : List Operation) :
    (mount.performAll operations).Within (Call.Uses mount.handle)
      fun result => result.2.handle = mount.handle := by
  induction operations generalizing mount with
  | nil => exact rfl
  | cons operation rest ih =>
    rw [performAll, Program.bind_eq_bind, Program.within_bind]
    apply (mount.perform_within operation).mono
    intro result same
    obtain ⟨outcome, after⟩ := result
    apply (Program.within_bind ..).mpr
    rw [← show after.handle = mount.handle from same]
    exact (ih after).mono fun _ kept => kept

end Mount

/-- What is left of a whole life: its trace, or that of a preparation that failed. -/
def Life.Leaves (life : Life) (entries : List Entry) : Outcome Life.Outcomes → Prop
  | .ok outcomes => Trace.Closes life.ending outcomes.mount entries
  | .error _ => (∀ entry ∈ entries, entry.made? = none ∧ entry.handle? = none) ∨
      ∃ config partly, life.creation = .prepared config ∧ partly.state ≠ .mounted ∧
        Trace.Closes .drop partly entries

theorem Life.program_leaves (answers : Answers σ) (life : Life) (state : σ) :
    life.program.Meets (.answering answers) state fun entries outcome _ =>
      life.Leaves entries outcome := by
  rw [Life.program, Program.bind_eq_bind, Program.meets_bind]
  apply (life.creation.program_leaves answers state).mono
  intro early outcome started left
  cases outcome with
  | error error =>
    rw [← List.append_nil early] at left
    exact left
  | ok mount =>
    have used := (mount.performAll_within life.operations).uses answers started
    simp only [Program.bind_eq_bind, Program.meets_bind]
    apply used.mono
    intro during result between kept
    obtain ⟨outcomes, after⟩ := result
    obtain ⟨same, uses⟩ := kept
    apply (after.end_calls answers life.ending between).mono
    intro last outcome _ ends
    refine ⟨early ++ during, last, by simp, ?_, ends⟩
    change after.handle = mount.handle at same
    rw [same]
    exact Trace.Opens.append left uses

namespace Trace

theorem Opens.made {handle : Handle} {opening : List Entry} (opens : Opens handle opening) :
    made opening = [handle] := by
  obtain ⟨creation, rest, rfl, given, -, uses⟩ := opens
  have none : rest.filterMap Entry.made? = [] :=
    List.filterMap_eq_nil_iff.mpr fun entry member => (uses entry member).made?
  rw [Trace.made, List.filterMap_cons_some given, none]

theorem Opens.releases {handle : Handle} {opening : List Entry} (opens : Opens handle opening) :
    releases handle opening = [] := by
  obtain ⟨creation, rest, rfl, -, free, uses⟩ := opens
  refine List.filterMap_eq_nil_iff.mpr fun entry member => ?_
  rcases List.mem_cons.mp member with rfl | member
  · exact Entry.releaseCode?_of_handle? free
  · exact (uses entry member).releaseCode? handle

theorem Closes.settled {ending : Ending} {mount : Mount} {entries : List Entry}
    (closes : Closes ending mount entries) : Settled mount.handle entries := by
  obtain ⟨opening, last, rfl, opens, ends⟩ := closes
  obtain ⟨early, code, shape, once, refused⟩ := ends.last_is_release
  have none := opens.releases
  have whole : calls (opening ++ last) =
      (calls opening ++ early) ++ [.called (.request mount.handle .release) code] := by
    rw [calls_append, shape, List.append_assoc]
    rfl
  -- The opening adds calls in front and no release, so the account is that of the end.
  refine settled_of_calls whole ?_ ?_
  · rwa [releases_append, releases_calls, none]
  · rwa [releases_append, releases_calls, none]

theorem Closes.made {ending : Ending} {mount : Mount} {entries : List Entry}
    (closes : Closes ending mount entries) : made entries = [mount.handle] := by
  obtain ⟨opening, last, rfl, opens, ends⟩ := closes
  have none : Trace.made (calls last) = [] :=
    List.filterMap_eq_nil_iff.mpr fun entry member => by
      obtain ⟨request, code, rfl⟩ := ends.asked member
      rfl
  rw [made_append, opens.made, ← made_calls last, none, List.append_nil]

end Trace

/-- Whatever the boundary answers, a life leaves the trace of its creation, uses and end, and every
handle that was given out in it is settled. -/
theorem Life.release_discipline (answers : Answers σ) (life : Life) (state : σ) :
    ∃ entries outcome after,
      life.program.run (.answering answers) state = ⟨.ok outcome, entries, after⟩ ∧
        life.Leaves entries outcome ∧
        ∀ handle ∈ Trace.made entries, Trace.Settled handle entries := by
  obtain ⟨entries, outcome, after, ran, left⟩ := (life.program_leaves answers state).run
  refine ⟨entries, outcome, after, ran, left, fun handle given => ?_⟩
  have closed {ending : Ending} {mount : Mount} (closes : Trace.Closes ending mount entries) :
      Trace.Settled handle entries := by
    rw [closes.made] at given
    exact List.mem_singleton.mp given ▸ closes.settled
  cases outcome with
  | ok outcomes => exact closed left
  | error error =>
    rcases left with unmade | ⟨config, partly, -, -, closes⟩
    · obtain ⟨entry, member, made⟩ := List.mem_filterMap.mp given
      rw [(unmade entry member).1] at made
      cases made
    · exact closed closes

end CephMount
