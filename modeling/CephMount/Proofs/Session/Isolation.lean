import CephMount.Proofs.InMemory.Isolation
import CephMount.Proofs.Session.Steps

/-! Mounts that share one library do not see each other.

A mount's steps give the same whether they are taken alone or between the steps of other mounts, as
long as nobody changes the library from outside and no failure is laid up. The log of commands is
shared, and in it each mount's commands stand in the order in which it sent them.
-/

set_option autoImplicit false

namespace CephMount

open InMemory

/-- A use of a mount that is held, or its end. -/
def Instruction.usesMount : Instruction → Bool
  | .operate _ | .release | .drop => true
  | _ => false

/-- What came of a step: its result, the tracked state after it, and the commands it sent. -/
structure Account where
  slot : String
  result : Result
  state : Option MountState
  commands : List RecordedCommand
  deriving DecidableEq, Repr

/-- In both tables the slot holds the same, on the one handle, and on the left no other slot does. -/
structure Held (slot : String) (handle : Handle) (left right : Table String Mount) : Prop where
  same : left.get? slot = right.get? slot
  own : ∀ mount, left.get? slot = some mount → mount.handle = handle
  others : ∀ other mount, other ≠ slot → left.get? other = some mount → handle ≠ mount.handle

namespace Held

variable {slot : String} {handle : Handle} {left right : Table String Mount}

theorem erase (held : Held slot handle left right) :
    Held slot handle (left.erase slot) (right.erase slot) where
  same := by simp
  own mount found := by simp at found
  others other mount distinct found := held.others other mount distinct (Table.get?_of_erase found)

theorem insert (held : Held slot handle left right) {mount : Mount} (own : mount.handle = handle) :
    Held slot handle (left.insert slot mount) (right.insert slot mount) where
  same := by simp
  own other found := by
    rw [Table.get?_insert, if_pos rfl] at found
    cases found
    exact own
  others other another distinct found := by
    rw [Table.get?_insert, if_neg distinct] at found
    exact held.others other another distinct found

variable {other : String}

theorem erase_other (held : Held slot handle left right) (distinct : other ≠ slot) :
    Held slot handle (left.erase other) right where
  same := by rw [Table.get?_erase, if_neg distinct.symm, held.same]
  own mount found := held.own mount (Table.get?_of_erase found)
  others another mount apart found := held.others another mount apart (Table.get?_of_erase found)

theorem insert_other (held : Held slot handle left right) (distinct : other ≠ slot) {mount : Mount}
    (apart : handle ≠ mount.handle) : Held slot handle (left.insert other mount) right where
  same := by rw [Table.get?_insert, if_neg distinct.symm, held.same]
  own another found := by
    rw [Table.get?_insert, if_neg distinct.symm] at found
    exact held.own another found
  others another third away found := by
    rw [Table.get?_insert] at found
    split at found
    · cases found
      exact apart
    · exact held.others another third away found

end Held

namespace Session

def account (session : Session) (step : Step) : Account where
  slot := step.slot
  result := (session.step step).1.result
  state := (session.step step).1.state
  commands := (session.step step).2.library.commands.drop session.library.commands.length

def accounts (session : Session) : List Step → List Account
  | [] => []
  | first :: rest => session.account first :: (session.step first).2.accounts rest

/-- For the slot and its handle it makes no difference which of the sessions they are in. -/
structure Alike (slot : String) (handle : Handle) (left right : Session) : Prop where
  direct : left.Direct
  directToo : right.Direct
  library : left.library.Alike handle right.library
  held : Held slot handle left.mounts right.mounts

/-- Turns from two libraries that give the same, send the same commands and leave the sessions
alike. -/
structure TurnsAlike (slot : String) (handle : Handle) (left right : Library) (one two : Turn) :
    Prop where
  result : one.result = two.result
  after : one.session.Alike slot handle two.session
  commands : ∃ sent, one.session.library.commands = left.commands ++ sent ∧
    two.session.library.commands = right.commands ++ sent

variable {left right : Session} {slot : String} {handle : Handle}

/-- For a mount on a handle of its own a session is like itself. -/
theorem alike_self {session : Session} (direct : session.Direct)
    (unfailing : session.library.failures = .empty) {mount : Mount}
    (held : session.mounts.get? slot = some mount)
    (apart : ∀ other another, other ≠ slot → session.mounts.get? other = some another →
      mount.handle ≠ another.handle) : session.Alike slot mount.handle session where
  direct := direct
  directToo := direct
  library := ⟨rfl, rfl, rfl, unfailing, unfailing⟩
  held := by
    refine ⟨rfl, fun other found => ?_, apart⟩
    rw [held] at found
    cases found
    rfl

theorem quiet_alike (alike : left.Alike slot handle right) (result : Result) :
    TurnsAlike slot handle left.library right.library (left.quiet result) (right.quiet result) where
  result := rfl
  after := alike
  commands := ⟨[], (List.append_nil _).symm, (List.append_nil _).symm⟩

/-- One program run in both sessions, where what is done with the mounts afterwards depends on its
result alone. -/
theorem run_alike {α : Type} {program : Program α} {allowed : Call → Prop} {out : α → Prop}
    (place : α → Table String Mount → Table String Mount) (give : α → Result)
    (alike : left.Alike slot handle right) (isolated : program.Isolated handle)
    (within : program.Within allowed out)
    (placed : ∀ value before beforeToo, out value → Held slot handle before beforeToo →
      Held slot handle (place value before) (place value beforeToo)) :
    let finish (session : Session) (value : α) :=
      ({ session with mounts := place value session.mounts }, give value)
    TurnsAlike slot handle left.library right.library (left.run program finish)
      (right.run program finish) := by
  intro finish
  obtain ⟨same, library, commands⟩ := isolated left.library right.library alike.library
  have post (value : α) (gave : (program.run Library.answer left.library).result = .ok value) :
      out value := within.run_post gave
  rw [run_alone alike.direct, run_alone alike.directToo]
  generalize program.run Library.answer left.library = one at same library commands post ⊢
  generalize program.run Library.answer right.library = two at same library commands ⊢
  obtain ⟨result, entries, after⟩ := one
  obtain ⟨other, others, afterToo⟩ := two
  change result = other at same
  subst same
  -- Either both runs are cut short, or both turns go on with one value.
  cases result with
  | error misuse => exact ⟨rfl, ⟨rfl, rfl, library, alike.held⟩, commands⟩
  | ok value =>
    exact ⟨rfl, ⟨rfl, rfl, library, placed value _ _ (post value rfl) alike.held⟩, commands⟩

/-- A program that another slot's mount runs. -/
theorem run_other {α : Type} {program : Program α} {out : α → Prop} {other : Handle}
    (place : α → Table String Mount → Table String Mount) (give : α → Result)
    (alike : left.Alike slot handle right) (within : program.Within (Call.Concerns other) out)
    (apart : handle ≠ other)
    (placed : ∀ value before, out value → Held slot handle before right.mounts →
      Held slot handle (place value before) right.mounts) :
    let finish (session : Session) (value : α) :=
      ({ session with mounts := place value session.mounts }, give value)
    (left.run program finish).session.Alike slot handle right := by
  intro finish
  have library := within.spares apart alike.library
  have post (value : α) (gave : (program.run Library.answer left.library).result = .ok value) :
      out value := within.run_post gave
  rw [run_alone alike.direct]
  generalize program.run Library.answer left.library = one at library post ⊢
  obtain ⟨result, entries, after⟩ := one
  cases result with
  | error misuse => exact ⟨rfl, alike.directToo, library, alike.held⟩
  | ok value => exact ⟨rfl, alike.directToo, library, placed value _ (post value rfl) alike.held⟩

/-! A slot's own turns, and those of other slots. -/

theorem Alike.erase (alike : left.Alike slot handle right) :
    Alike slot handle { left with mounts := left.mounts.erase slot }
      { right with mounts := right.mounts.erase slot } :=
  ⟨alike.direct, alike.directToo, alike.library, alike.held.erase⟩

theorem Alike.erase_other {other : String} (alike : left.Alike slot handle right)
    (distinct : other ≠ slot) :
    Alike slot handle { left with mounts := left.mounts.erase other } right :=
  ⟨alike.direct, alike.directToo, alike.library, alike.held.erase_other distinct⟩

theorem perform_alike (alike : left.Alike slot handle right) {instruction : Instruction}
    (uses : instruction.usesMount = true) :
    TurnsAlike slot handle left.library right.library (left.perform slot instruction)
      (right.perform slot instruction) := by
  cases found : left.mounts.get? slot with
  | none =>
    -- The slot's mount has ended, so all of its turns say that there is none.
    have foundToo := alike.held.same.symm.trans found
    cases instruction with
    | operate operation | release | drop =>
      simp only [perform, withMount, found, foundToo]
      exact quiet_alike alike .noMount
    | _ => cases uses
  | some mount =>
    have foundToo := alike.held.same.symm.trans found
    obtain rfl := alike.held.own mount found
    cases instruction with
    | operate operation =>
      simp only [perform, withMount, found, foundToo]
      exact run_alike (fun result mounts => mounts.insert slot result.2) (fun result => resultOf result.1)
        alike (mount.perform_isolated operation) (mount.perform_within operation)
        fun _ _ _ own held => held.insert own
    | release =>
      simp only [perform, withMount, found, foundToo]
      exact run_alike (fun _ mounts => mounts) resultOfUnit alike.erase mount.release_isolated
        mount.release_asks fun _ _ _ _ held => held
    | drop =>
      simp only [perform, withMount, found, foundToo, vacate]
      exact run_alike (fun _ mounts => mounts) (fun _ => .answer .nothing) alike.erase
        mount.drop_isolated mount.drop_asks fun _ _ _ _ held => held
    | _ => cases uses

theorem perform_other {other : String} (alike : left.Alike slot handle right)
    (distinct : other ≠ slot) {instruction : Instruction} (uses : instruction.usesMount = true) :
    (left.perform other instruction).session.Alike slot handle right := by
  cases found : left.mounts.get? other with
  | none =>
    cases instruction with
    | operate operation | release | drop =>
      simp only [perform, withMount, found]
      exact alike
    | _ => cases uses
  | some mount =>
    -- The other slot's mount is on another handle, and all that it calls concerns that one.
    have apart := alike.held.others other mount distinct found
    cases instruction with
    | operate operation =>
      simp only [perform, withMount, found]
      refine run_other (fun result mounts => mounts.insert other result.2)
        (fun result => resultOf result.1) alike
        ((mount.perform_within operation).widen fun _ uses => uses.concerns) apart ?_
      intro result before same held
      exact held.insert_other distinct (same ▸ apart)
    | release =>
      simp only [perform, withMount, found]
      exact run_other (fun _ mounts => mounts) resultOfUnit (alike.erase_other distinct)
        (mount.release_asks.widen fun _ asks => asks.plain.concerns) apart fun _ _ _ held => held
    | drop =>
      simp only [perform, withMount, found, vacate]
      exact run_other (fun _ mounts => mounts) (fun _ => .answer .nothing) (alike.erase_other distinct)
        (mount.drop_asks.widen fun _ asks => asks.plain.concerns) apart fun _ _ _ held => held
    | _ => cases uses

theorem TurnsAlike.drop_commands {first second : Library} {one two : Turn}
    (turns : TurnsAlike slot handle first second one two) :
    one.session.library.commands.drop first.commands.length =
      two.session.library.commands.drop second.commands.length := by
  obtain ⟨sent, recorded, recordedToo⟩ := turns.commands
  rw [recorded, recordedToo, List.drop_left, List.drop_left]

/-- A step of the slot, taken in both sessions. -/
theorem Alike.step (alike : left.Alike slot handle right) {step : Step} (own : step.slot = slot)
    (uses : step.instruction.usesMount = true) :
    left.account step = right.account step ∧
      (left.step step).2.Alike slot handle (right.step step).2 := by
  subst own
  have turns := perform_alike alike uses
  have held := congrArg (Option.map Mount.state) turns.after.held.same
  refine ⟨?_, turns.after⟩
  change Account.mk _ _ _ _ = Account.mk _ _ _ _
  rw [Account.mk.injEq]
  exact ⟨rfl, turns.result, held, turns.drop_commands⟩

/-! Runs of steps, in which those of the slot are among the steps of others. -/

variable {steps : List Step}

/-- The slot's steps give the same without the steps of the others between them. -/
theorem Alike.after (alike : left.Alike slot handle right)
    (uses : ∀ step ∈ steps, step.instruction.usesMount = true) :
    let own := steps.filter (·.slot = slot)
    (left.accounts steps).filter (·.slot = slot) = right.accounts own ∧
      (left.after steps).Alike slot handle (right.after own) := by
  induction steps generalizing left right with
  | nil => exact ⟨rfl, alike⟩
  | cons first rest ih =>
    have later : ∀ step ∈ rest, step.instruction.usesMount = true :=
      fun step member => uses step (List.mem_cons_of_mem first member)
    have use := uses first List.mem_cons_self
    -- A step of the slot is taken on both sides, and one of another slot on the left alone.
    by_cases own : first.slot = slot
    · obtain ⟨same, after⟩ := alike.step own use
      obtain ⟨accounts, alike⟩ := ih after later
      have counts : (left.account first).slot = slot := own
      simp only [Session.accounts, Session.after, List.filter_cons, own, counts, decide_true, if_true]
      exact ⟨by rw [same, accounts], alike⟩
    · have after := perform_other alike own use
      have counts : (left.account first).slot ≠ slot := own
      simp only [Session.accounts, Session.after, List.filter_cons, own, counts, decide_false,
        Bool.false_eq_true, if_false]
      exact ih after later

/-! The log of commands. -/

theorem step_commands_grow (session : Session) {step : Step}
    (uses : step.instruction.usesMount = true) :
    session.library.commands <+: (session.step step).2.library.commands := by
  obtain ⟨slot, instruction⟩ := step
  change _ <+: (session.perform slot instruction).session.library.commands
  let grown (library : Library) : Prop := session.library.commands <+: library.commands
  have calls (call : Call) (library : Library) (before : grown library) :
      grown (Library.answer call library).2 :=
    before.trans (library.answer_commands_grow call)
  cases found : session.mounts.get? slot with
  | none =>
    cases instruction with
    | operate operation | release | drop =>
      simp only [perform, withMount, found]
      exact List.prefix_rfl
    | _ => cases uses
  | some mount =>
    cases instruction with
    | operate operation | release | drop =>
      simp only [perform, withMount, found, vacate]
      exact run_library grown calls List.prefix_rfl fun _ _ => rfl
    | _ => cases uses

/-- The log is made up of the commands that the steps sent, in their order. -/
theorem after_commands (session : Session)
    (uses : ∀ step ∈ steps, step.instruction.usesMount = true) :
    (session.after steps).library.commands =
      session.library.commands ++ (session.accounts steps).flatMap Account.commands := by
  induction steps generalizing session with
  | nil => exact (List.append_nil _).symm
  | cons first rest ih =>
    have later := ih (session.step first).2 fun step member =>
      uses step (List.mem_cons_of_mem first member)
    obtain ⟨sent, recorded⟩ := session.step_commands_grow (uses first List.mem_cons_self)
    have account : (session.account first).commands = sent := by
      change List.drop _ _ = sent
      rw [← recorded, List.drop_left]
    rw [Session.after, later, Session.accounts, List.flatMap_cons, account, ← recorded,
      List.append_assoc]

/-- What the mounts of one library give does not depend on how their uses are mixed. For each slot the
steps of the others might as well not have been: its accounts, its mount and its handle's record are
the same without them. The log is put together from what the slots send when each is alone. -/
theorem mounts_isolated (start : Session) (direct : start.Direct)
    (unfailing : start.library.failures = .empty)
    (apart : ∀ slot other mount another, start.mounts.get? slot = some mount →
      start.mounts.get? other = some another → mount.handle = another.handle → slot = other)
    (steps : List Step) (uses : ∀ step ∈ steps, step.instruction.usesMount = true) :
    (∀ slot mount, start.mounts.get? slot = some mount →
      let own := steps.filter (·.slot = slot)
      let together := (start.accounts steps).filter (·.slot = slot)
      together = start.accounts own ∧
        (start.after steps).mounts.get? slot = (start.after own).mounts.get? slot ∧
        (start.after steps).library.record? mount.handle =
          (start.after own).library.record? mount.handle ∧
        (start.after own).library.commands =
          start.library.commands ++ together.flatMap Account.commands) ∧
      (start.after steps).library.commands =
        start.library.commands ++ (start.accounts steps).flatMap Account.commands := by
  refine ⟨fun slot mount held => ?_, start.after_commands uses⟩
  intro own together
  -- At the start both sides are the same session.
  have alike : start.Alike slot mount.handle start :=
    alike_self direct unfailing held fun other another distinct found same =>
      distinct (apart slot other mount another held found same).symm
  obtain ⟨accounts, after⟩ := alike.after uses
  have ownUses : ∀ step ∈ own, step.instruction.usesMount = true :=
    fun step member => uses step (List.mem_filter.mp member).1
  refine ⟨accounts, after.held.same, after.library.record, ?_⟩
  rw [show together = start.accounts own from accounts]
  exact start.after_commands ownUses

/-- Two mounts make the same directory and send the same command, one of them before it is mounted.
One is released and used again, and the other is not ended. -/
theorem mixed_mounts_isolated :
    let start := ({} : Session).after
      [⟨"a", .create (.fresh none)⟩, ⟨"b", .create (.fresh none)⟩,
        ⟨"", .control (.script ⟨"mds.a", [[102, 115]], 0, [1, 2], "done"⟩)⟩]
    let command : Instruction := .operate (.command ⟨"mds.a", [[102, 115]], none⟩)
    let steps : List Step :=
      [⟨"a", .operate .mount⟩, ⟨"b", command⟩, ⟨"b", .operate .mount⟩,
        ⟨"a", .operate (.path (.make "c" 0o755))⟩, ⟨"a", command⟩,
        ⟨"b", .operate (.path (.make "c" 0o700))⟩, ⟨"a", .release⟩, ⟨"b", .operate .sync⟩,
        ⟨"a", command⟩]
    start.Direct ∧ start.library.failures = .empty ∧
      (∀ step ∈ steps, step.instruction.usesMount = true) ∧
      (start.after steps).library.commands.length = 2 ∧
      (start.accounts steps).filter (·.slot = "b") =
        start.accounts (steps.filter (·.slot = "b")) := by
  intro start command steps
  have uses : ∀ step ∈ steps, step.instruction.usesMount = true := by decide
  have ⟨direct, sound⟩ : start.Direct ∧ start.holding.Sound := after_sound (by decide)
  obtain ⟨mount, held⟩ := Option.isSome_iff_exists.mp
    (show (start.mounts.get? "b").isSome = true by decide +kernel)
  have unfailing : start.library.failures = .empty := by decide +kernel
  have isolated := mounts_isolated start direct unfailing sound.apart steps uses
  exact ⟨direct, unfailing, uses, by decide +kernel, (isolated.1 "b" mount held).1⟩

end Session

end CephMount
