import CephMount.Proofs.InMemory.Creations
import CephMount.Proofs.Session.Direct

/-! What the steps of a session do to the live handles and to the mounts that are held.

A step is a few moves, each of one kind. That nothing is held on a dead handle, and nothing twice, is
shown once for each kind of move and then holds in every session.
-/

set_option autoImplicit false

namespace CephMount

open InMemory

/-- What a session holds: the library, and mounts in their slots. -/
structure Holding where
  library : Library
  mounts : Table String Mount

def Session.holding (session : Session) : Holding := ⟨session.library, session.mounts⟩

namespace InMemory.Library

def EndMayFail (library : Library) : Prop :=
  (library.failures.get? "unmount").isSome ∨ (library.failures.get? "release").isSome

end InMemory.Library

namespace Holding

/-- One thing that a step can do, with the handles that it makes. -/
inductive Moves (instruction : Instruction) (before : Holding) : List Handle → Holding → Prop where
  /-- Handles and failures stay as they are. -/
  | surrounds {after : Library} : after.records = before.library.records →
      after.nextHandle = before.library.nextHandle → after.failures = before.library.failures →
      Moves instruction before [] ⟨after, before.mounts⟩
  | fails {call : String} {code : Int32} : instruction = .control (.fail call code) →
      Moves instruction before [] ⟨before.library.failNext call code, before.mounts⟩
  | flags {handle : Handle} {mounted : Bool} : instruction = .setFlag mounted →
      Moves instruction before [] ⟨before.library.setMountedFlag handle mounted, before.mounts⟩
  | performs {slot : String} {mount next : Mount} {after : Library} :
      before.mounts.get? slot = some mount → Performs mount before.library next after →
      Moves instruction before [] ⟨after, before.mounts.insert slot next⟩
  /-- The handle goes, unless its flag was not what its mount said or a failure is laid up. -/
  | ends {slot : String} {mount : Mount} {after : Library} : before.mounts.get? slot = some mount →
      Library.Ends mount.handle before.library after →
      (before.library.FailuresFail → Agrees mount before.library →
        after.isLive mount.handle = true → before.library.EndMayFail) →
      Moves instruction before [] ⟨after, before.mounts.erase slot⟩
  | creates {slot : String} {mount : Mount} {entries : List Entry} {after : Library} :
      before.mounts.get? slot = none → Library.Created before.library entries (.ok mount) after →
      Moves instruction before (Trace.made entries) ⟨after, before.mounts.insert slot mount⟩
  | undoes {error : Error} {entries : List Entry} {after : Library} :
      Library.Created before.library entries (.error error) after →
      Moves instruction before (Trace.made entries) ⟨after, before.mounts⟩

/-- Every mount that is held has a live handle, which no other slot holds. -/
structure Sound (holding : Holding) : Prop where
  numbered : holding.library.Numbered
  live : ∀ slot mount, holding.mounts.get? slot = some mount →
    holding.library.isLive mount.handle = true
  apart : ∀ slot other mount another, holding.mounts.get? slot = some mount →
    holding.mounts.get? other = some another → mount.handle = another.handle → slot = other

variable {instruction : Instruction} {before after : Holding} {made : List Handle}

theorem Sound.found (sound : before.Sound) {slot : String} {mount : Mount}
    (held : before.mounts.get? slot = some mount) :
    ∃ record, before.library.record? mount.handle = some record :=
  Option.isSome_iff_exists.mp (sound.live slot mount held)

theorem Sound.handle_ne (sound : before.Sound) {slot other : String} {mount another : Mount}
    (held : before.mounts.get? slot = some mount) (also : before.mounts.get? other = some another)
    (distinct : slot ≠ other) : mount.handle ≠ another.handle :=
  fun same => distinct (sound.apart slot other mount another held also same)

theorem Moves.advances (moves : before.Moves instruction made after) (sound : before.Sound) :
    Library.Advances made before.library after.library := by
  cases moves with
  | surrounds records number failures =>
    refine .of_kept number fun handle alive => ?_
    rwa [Library.isLive, Library.record?, records] at alive
  | fails laid => exact .of_kept rfl fun _ alive => alive
  | @flags handle mounted set =>
    refine .of_kept rfl fun other alive => ?_
    rwa [Library.isLive_setMountedFlag] at alive
  | performs held performs =>
    exact (performs.keeps.ends (sound.live _ _ held)).advances (sound.live _ _ held)
  | ends held ends outlives => exact ends.advances (sound.live _ _ held)
  | creates vacant created => exact created.advances
  | undoes created => exact created.advances

/-- Putting a mount on a handle that no other slot holds keeps the mounts apart. -/
theorem Sound.insert {library : Library} (sound : before.Sound) (slot : String) (mount : Mount)
    (numbered : library.Numbered) (live : library.isLive mount.handle = true)
    (kept : ∀ other another, other ≠ slot → before.mounts.get? other = some another →
      library.isLive another.handle = true ∧ mount.handle ≠ another.handle) :
    Sound ⟨library, before.mounts.insert slot mount⟩ where
  numbered := numbered
  live other another held := by
    simp only [Table.get?_insert] at held
    split at held
    · cases held
      exact live
    next distinct => exact (kept other another distinct held).1
  apart first second one two held also same := by
    simp only [Table.get?_insert] at held also
    split at held
    next here =>
      split at also
      next there => exact here.trans there.symm
      next distinct =>
        cases held
        exact absurd same (kept second two distinct also).2
    next distinct =>
      split at also
      next there =>
        cases also
        exact absurd same.symm (kept first one distinct held).2
      · exact sound.apart first second one two held also same

/-- A mount that is held is not on a handle that is only now made. -/
theorem Sound.handle_ne_new {library : Library} (sound : before.Sound) {slot : String} {mount : Mount}
    {handle : Handle} (creates : Library.Creates handle before.library library)
    (held : before.mounts.get? slot = some mount) : mount.handle ≠ handle := by
  intro same
  have given := sound.numbered mount.handle (sound.live slot mount held)
  rw [same, creates.number] at given
  exact Nat.lt_irrefl _ given

theorem Moves.sound (moves : before.Moves instruction made after) (sound : before.Sound) :
    after.Sound := by
  -- A move touches one handle, and whatever else is held is on another.
  have numbered := (moves.advances sound).numbered sound.numbered
  cases moves with
  | surrounds records number failures =>
    refine ⟨numbered, fun slot mount held => ?_, sound.apart⟩
    rw [Library.isLive, Library.record?, records]
    exact sound.live slot mount held
  | fails laid => exact ⟨numbered, sound.live, sound.apart⟩
  | flags set =>
    refine ⟨numbered, fun slot mount held => ?_, sound.apart⟩
    rw [Library.isLive_setMountedFlag]
    exact sound.live slot mount held
  | @performs slot mount next after held performs =>
    refine sound.insert slot next numbered ?_ fun other another distinct also => ?_
    · rw [performs.handle, performs.keeps.live]
      exact sound.live slot mount held
    · have different := sound.handle_ne also held distinct
      rw [Library.isLive_of_same performs.keeps.others different, performs.handle]
      exact ⟨sound.live other another also, different.symm⟩
  | @ends slot mount after held ends outlives =>
    refine ⟨numbered, fun other another also => ?_, fun first second one two also too same => ?_⟩
    · simp only [Table.get?_erase] at also
      split at also
      · cases also
      next distinct =>
        rw [Library.isLive_of_same ends.others (sound.handle_ne also held distinct)]
        exact sound.live other another also
    · simp only [Table.get?_erase] at also too
      split at also
      · cases also
      · split at too
        · cases too
        · exact sound.apart first second one two also too same
  | @creates slot mount entries after vacant created =>
    obtain ⟨creates, lowered, -, -⟩ := created
    obtain ⟨record, found, -⟩ := Option.map_eq_some_iff.mp lowered
    refine sound.insert slot mount numbered (Library.isLive_of_found found) fun other another _ also => ?_
    have different := sound.handle_ne_new creates also
    rw [Library.isLive_of_same creates.others different]
    exact ⟨sound.live other another also, different.symm⟩
  | undoes created =>
    refine ⟨numbered, fun slot mount held => ?_, sound.apart⟩
    have alive := sound.live slot mount held
    rcases created with ⟨keeps, -⟩ | ⟨handle, creates, -, -⟩
    · rw [(keeps mount.handle).live]
      exact alive
    · rw [Library.isLive_of_same creates.others (sound.handle_ne_new creates held)]
      exact alive

end Holding

end CephMount
