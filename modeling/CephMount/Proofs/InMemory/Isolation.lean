import CephMount.Proofs.InMemory.Buffers

/-! What one handle's use of the in-memory library has to do with that of the others.

Libraries are alike for a handle when its record, the surroundings and the scripts are the same and no
failure is laid up. The same uses of the handle then give the same and leave the libraries alike, and
uses of another handle leave a library like it was. Which buffers carry a reply may differ, and so may
everything that is counted.
-/

set_option autoImplicit false

namespace CephMount

open InMemory

/-- A call that is made on the handle, or takes a buffer back. -/
def Call.Concerns (handle : Handle) : Call → Prop
  | .request holder _ | .readOption holder _ _ | .currentDir holder | .command holder _ =>
    holder = handle
  | .freeBuffer _ _ => True
  | .create _ | .createFromCluster _ | .version => False

theorem Call.Plain.concerns {handle : Handle} {call : Call} (plain : call.Plain handle) :
    call.Concerns handle := by
  cases call with
  | request holder request | readOption holder key buffer | currentDir holder => exact plain
  | _ => cases plain

theorem Call.Plain.uncommanded {handle : Handle} {call : Call} (plain : call.Plain handle) :
    ∀ holder command, call ≠ .command holder command := by
  rintro holder command rfl
  exact plain

theorem Call.Uses.concerns {handle : Handle} {call : Call} (uses : call.Uses handle) :
    call.Concerns handle := by
  cases uses with
  | quiet quiet => exact quiet.plain.concerns
  | mount => exact rfl
  | unmount => exact rfl
  | command command => exact rfl
  | freeBuffer part id => exact trivial

namespace InMemory.Library

/-- For the handle it makes no difference which of the libraries it is in. -/
structure Alike (handle : Handle) (left right : Library) : Prop where
  record : left.record? handle = right.record? handle
  surroundings : left.surroundings = right.surroundings
  scripts : left.scripts = right.scripts
  unfailing : left.failures = .empty ∧ right.failures = .empty

variable {library left right : Library} {handle : Handle}

theorem takeRequestFailure_of_unfailing (unfailing : library.failures = .empty) (request : Request) :
    library.takeRequestFailure request = (none, library) := by
  unfold takeRequestFailure
  split
  · rfl
  · cases library
    subst unfailing
    rfl

/-- With no failure laid up a request is served, unless it mounts elsewhere. -/
theorem request_of_unfailing (unfailing : library.failures = .empty) (handle : Handle)
    (request : Request) :
    library.request handle request =
      match request with
      | .mount (some _) => (.error .mountedElsewhere, library)
      | .release => { library with releases := library.releases + 1 }.serve handle .release
      | request => library.serve handle request := by
  have unlessFailing (library : Library) (unfailing : library.failures = .empty)
      (request : Request) :
      library.serveUnlessFailing handle request = library.serve handle request := by
    rw [serveUnlessFailing, takeRequestFailure_of_unfailing unfailing]
  cases request with
  | mount root =>
    cases root with
    | none => exact unlessFailing library unfailing (.mount none)
    | some root => rfl
  | readConfig list =>
    cases found : library.record? handle with
    | none => simp [Library.request, serve, found]
    | some record =>
      simp only [Library.request, found, Option.isNone_some, Bool.false_eq_true, if_false]
      exact unlessFailing library unfailing (.readConfig list)
  | isMounted => exact unlessFailing library unfailing .isMounted
  | release => exact unlessFailing { library with releases := library.releases + 1 } unfailing .release
  | _ => exact unlessFailing library unfailing _

/-- A handle's own record decides what a request on it gives and leaves. -/
theorem Alike.serve (alike : left.Alike handle right) (request : Request) :
    (left.serve handle request).1 = (right.serve handle request).1 ∧
      (left.serve handle request).2.Alike handle (right.serve handle request).2 := by
  -- Both sides look up the same record, which sees the same surroundings.
  unfold Library.serve
  rw [← alike.record, ← alike.surroundings]
  cases left.record? handle with
  | none => exact ⟨rfl, alike⟩
  | some record =>
    dsimp only
    cases record.serve left.surroundings request with
    | error errno => exact ⟨rfl, alike⟩
    | ok after =>
      refine ⟨rfl, ?_, rfl, alike.scripts, alike.unfailing⟩
      cases request <;> simp [record?]

theorem Alike.request (alike : left.Alike handle right) (request : Request) :
    (left.request handle request).1 = (right.request handle request).1 ∧
      (left.request handle request).2.Alike handle (right.request handle request).2 := by
  rw [request_of_unfailing alike.unfailing.1, request_of_unfailing alike.unfailing.2]
  split
  · exact ⟨rfl, alike⟩
  · have counted : Alike handle { left with releases := left.releases + 1 }
        { right with releases := right.releases + 1 } :=
      ⟨alike.record, alike.surroundings, alike.scripts, alike.unfailing⟩
    exact counted.serve .release
  · exact alike.serve _

/-- A call on the handle gives the same in both libraries. -/
theorem Alike.answer (alike : left.Alike handle right) {call : Call} (plain : call.Plain handle) :
    (Library.answer call left).1 = (Library.answer call right).1 ∧
      (Library.answer call left).2.Alike handle (Library.answer call right).2 := by
  cases call with
  | request holder request =>
    obtain rfl := plain
    exact alike.request request
  | readOption holder key buffer | currentDir holder =>
    obtain rfl := plain
    simp only [Library.answer, look, ← alike.record]
    cases left.record? holder with
    | none => exact ⟨rfl, alike⟩
    | some record => exact ⟨rfl, alike⟩
  | _ => cases plain

/-- Only commands are recorded. -/
theorem answer_commands {call : Call}
    (uncommanded : ∀ handle command, call ≠ .command handle command) (library : Library) :
    (answer call library).2.commands = library.commands := by
  cases call with
  | create id | createFromCluster cluster =>
    obtain ⟨records, failures, nextHandle, made⟩ := library.create_frame _ _
    rw [answer, made]
  | request handle request =>
    obtain ⟨records, failures, releases, left⟩ := library.request_frame handle request
    rw [answer, left]
  | readOption handle key buffer | currentDir handle =>
    simp only [answer, look]
    split <;> rfl
  | command handle command => exact absurd rfl (uncommanded handle command)
  | freeBuffer part id =>
    obtain ⟨live, freed, returned⟩ := library.free_frame id
    rw [answer, returned]
  | version => rfl

/-- The log of commands only ever grows at its end. -/
theorem answer_commands_grow (call : Call) (library : Library) :
    library.commands <+: (answer call library).2.commands := by
  by_cases sent : ∃ handle command, call = .command handle command
  · obtain ⟨handle, command, rfl⟩ := sent
    obtain ⟨received, live, recorded⟩ := library.command_frame handle command
    rw [answer, recorded]
    exact List.prefix_append ..
  · have same := answer_commands (fun handle command is => sent ⟨handle, command, is⟩) library
    exact same ▸ List.prefix_rfl

/-- A use of another handle leaves the library as it was for this one. -/
theorem Alike.answer_other (alike : left.Alike handle right) {other : Handle} (apart : handle ≠ other)
    {call : Call} (concerns : call.Concerns other) :
    (Library.answer call left).2.Alike handle right := by
  have served (library : Library) (alike : library.Alike handle right) (request : Request) :
      (library.serve other request).2.Alike handle right := by
    have distinct := Handle.number_ne apart
    unfold Library.serve
    split
    · exact alike
    · split
      · exact alike
      · refine ⟨?_, alike.surroundings, alike.scripts, alike.unfailing⟩
        rw [← alike.record]
        cases request <;> simp [record?, distinct]
  cases call with
  | request holder request =>
    obtain rfl := concerns
    rw [Library.answer, request_of_unfailing alike.unfailing.1]
    split
    · exact alike
    · exact served { left with releases := left.releases + 1 }
        ⟨alike.record, alike.surroundings, alike.scripts, alike.unfailing⟩ .release
    · exact served left alike _
  | readOption holder key buffer | currentDir holder =>
    simp only [Library.answer, look]
    split <;> exact alike
  | command holder command =>
    obtain ⟨received, live, recorded⟩ := left.command_frame holder command
    rw [Library.answer, recorded]
    exact ⟨alike.record, alike.surroundings, alike.scripts, alike.unfailing⟩
  | freeBuffer part id =>
    obtain ⟨live, freed, returned⟩ := left.free_frame id
    rw [Library.answer, returned]
    exact ⟨alike.record, alike.surroundings, alike.scripts, alike.unfailing⟩
  | _ => cases concerns

end InMemory.Library

namespace Program

variable {α β : Type} {handle : Handle}

/-- On libraries that are alike for the handle the program gives the same, leaves them alike, and
records the same commands. -/
def Isolated (handle : Handle) (program : Program α) : Prop :=
  ∀ left right : Library, left.Alike handle right →
    let one := program.run Library.answer left
    let two := program.run Library.answer right
    one.result = two.result ∧ one.state.Alike handle two.state ∧
      ∃ sent, one.state.commands = left.commands ++ sent ∧ two.state.commands = right.commands ++ sent

theorem Isolated.done (result : α) : (Program.done result).Isolated handle :=
  fun _ _ alike => ⟨rfl, alike, [], (List.append_nil _).symm, (List.append_nil _).symm⟩

theorem Isolated.bind {program : Program α} {next : α → Program β}
    (first : program.Isolated handle) (rest : ∀ result, (next result).Isolated handle) :
    (program.bind next).Isolated handle := by
  intro left right alike
  obtain ⟨same, alike, sent, recorded, recordedToo⟩ := first left right alike
  rw [run_bind, run_bind]
  generalize program.run Library.answer left = one at same alike recorded ⊢
  generalize program.run Library.answer right = two at same alike recordedToo ⊢
  obtain ⟨result, entries, between⟩ := one
  obtain ⟨other, others, betweenToo⟩ := two
  change result = other at same
  subst same
  cases result with
  | error misuse => exact ⟨rfl, alike, sent, recorded, recordedToo⟩
  | ok value =>
    -- The rest starts in libraries that are alike, and what it sends comes behind.
    obtain ⟨same, alike, more, later, laterToo⟩ := rest value between betweenToo alike
    refine ⟨same, alike, sent ++ more, ?_, ?_⟩
    · rw [← List.append_assoc, ← recorded]
      exact later
    · rw [← List.append_assoc, ← recordedToo]
      exact laterToo

theorem Within.isolated {program : Program α} {post : α → Prop}
    (within : program.Within (Call.Plain handle) post) : program.Isolated handle := by
  induction program with
  | done result => exact .done result
  | log event next ih => exact ih within
  | call request next ih =>
    intro left right alike
    obtain ⟨plain, within⟩ := within
    obtain ⟨same, alike⟩ := alike.answer plain
    have recorded := Library.answer_commands plain.uncommanded left
    have recordedToo := Library.answer_commands plain.uncommanded right
    rw [Program.run, Program.run]
    generalize Library.answer request left = one at same alike recorded ⊢
    generalize Library.answer request right = two at same alike recordedToo ⊢
    obtain ⟨reply, between⟩ := one
    obtain ⟨other, betweenToo⟩ := two
    change reply = other at same
    subst same
    cases reply with
    | error misuse => exact ⟨rfl, alike, [], by simpa using recorded, by simpa using recordedToo⟩
    | ok reply =>
      obtain ⟨same, alike, sent, later, laterToo⟩ := ih reply (within reply) between betweenToo alike
      exact ⟨same, alike, sent, recorded ▸ later, recordedToo ▸ laterToo⟩

/-- Uses of another handle leave the library as it was for this one. -/
theorem Within.spares {program : Program α} {post : α → Prop} {other : Handle} {left right : Library}
    (within : program.Within (Call.Concerns other) post) (apart : handle ≠ other)
    (alike : left.Alike handle right) :
    (program.run Library.answer left).state.Alike handle right := by
  have step (call : Call) (library : Library) (concerns : call.Concerns other)
      (alike : library.Alike handle right) : (Library.answer call library).2.Alike handle right :=
    alike.answer_other apart concerns
  exact within.run_keeps step alike

end Program

namespace Mount

/-- A command is recorded in both libraries, and the scripts decide what its reply is. -/
theorem send_isolated (mount : Mount) (target : String) (command : Command) :
    (mount.send target command).Isolated mount.handle := by
  intro left right alike
  cases found : left.record? mount.handle with
  | none =>
    -- The handle is dead in both, and the command is refused.
    have foundToo : right.record? mount.handle = none := alike.record ▸ found
    rw [send_eq, Program.run, Program.run, Library.answer_command_of_dead command found,
      Library.answer_command_of_dead command foundToo]
    exact ⟨rfl, ⟨alike.record, alike.surroundings, alike.scripts, alike.unfailing⟩, _, rfl, rfl⟩
  | some record =>
    have foundToo : right.record? mount.handle = some record := alike.record ▸ found
    -- The buffers may have other numbers in the two, but what is read from them is the same.
    have own : right.commandReply record (.ofCommand command) =
        left.commandReply record (.ofCommand command) := by
      simp only [Library.commandReply, Library.scriptedReply, alike.scripts]
    obtain ⟨_, _, _, ran, given, after⟩ := (Library.send_meets mount target command found).run
    obtain ⟨_, _, _, ranToo, givenToo, afterToo⟩ :=
      (Library.send_meets mount target command foundToo).run
    change (mount.send target command).run Library.answer left = _ at ran
    change (mount.send target command).run Library.answer right = _ at ranToo
    rw [ran, ranToo, given, givenToo, after, afterToo, own]
    exact ⟨rfl, ⟨alike.record, alike.surroundings, alike.scripts, alike.unfailing⟩, _, rfl, rfl⟩

theorem perform_isolated (mount : Mount) (operation : Operation) :
    (mount.perform operation).Isolated mount.handle :=
  mount.perform_composed (Program.Isolated mount.handle) .done .bind Program.Within.isolated
    mount.send_isolated operation

theorem drop_isolated (mount : Mount) : mount.drop.Isolated mount.handle :=
  (mount.drop_asks.widen fun _ asks => asks.plain).isolated

theorem release_isolated (mount : Mount) : mount.release.Isolated mount.handle :=
  (mount.release_asks.widen fun _ asks => asks.plain).isolated

end Mount

end CephMount
