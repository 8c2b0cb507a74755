import CephMount.Proofs.InMemory.Operations
import CephMount.Proofs.Mount.Opening

/-! The buffers of replies, from the library that hands them out to the mount that hands them back.

A reply comes in up to two buffers, and whoever sends a command frees them before anything else is
called. So a run leaves no buffer out, and the library counts as many that came back as the replies
came in, also when the run is cut short.
-/

set_option autoImplicit false

namespace CephMount

open InMemory

/-- How many of the two buffers of a reply hold something. -/
def CommandAnswer.buffers (answer : CommandAnswer) : Nat :=
  [answer.output, answer.status].countP fun returned => !returned.content.isEmpty

def Entry.buffers : Entry → Nat
  | .called (.command _ _) answer => CommandAnswer.buffers answer
  | _ => 0

/-- How many buffers that hold something came with the replies to all commands. -/
def Trace.buffers : List Entry → Nat
  | [] => 0
  | entry :: rest => entry.buffers + buffers rest

@[simp] theorem Trace.buffers_nil : Trace.buffers [] = 0 := rfl

@[simp] theorem Trace.buffers_cons (entry : Entry) (rest : List Entry) :
    Trace.buffers (entry :: rest) = entry.buffers + Trace.buffers rest := rfl

@[simp] theorem Trace.buffers_append (first rest : List Entry) :
    Trace.buffers (first ++ rest) = Trace.buffers first + Trace.buffers rest := by
  induction first with
  | nil => simp
  | cons entry first ih => simp [ih, Nat.add_assoc]

/-- A call that neither hands buffers out nor takes them back. -/
def Call.Bare : Call → Prop
  | .command _ _ | .freeBuffer _ _ => False
  | _ => True

theorem Call.Plain.bare {handle : Handle} {call : Call} (plain : call.Plain handle) : call.Bare := by
  cases call with
  | command holder command | freeBuffer part id => cases plain
  | _ => exact trivial

theorem Entry.buffers_of_ne_command {call : Call} (reply : call.Reply)
    (other : ∀ handle command, call ≠ .command handle command) :
    (Entry.called call reply).buffers = 0 := by
  cases call with
  | command handle command => exact absurd rfl (other handle command)
  | _ => rfl

theorem Trace.buffers_of_uncommanded {entries : List Entry}
    (uncommanded : ∀ call reply, Entry.called call reply ∈ entries →
      ∀ handle command, call ≠ .command handle command) : Trace.buffers entries = 0 := by
  induction entries with
  | nil => rfl
  | cons entry rest ih =>
    have later := ih fun call reply member => uncommanded call reply (List.mem_cons_of_mem entry member)
    rw [Trace.buffers_cons, later]
    cases entry with
    | called call reply =>
      exact Entry.buffers_of_ne_command reply (uncommanded call reply List.mem_cons_self)
    | reported event => rfl

namespace InMemory.Library

/-- The buffers that were out are out again, and those that came with replies in between have come
back. -/
structure Balances (before : Library) (entries : List Entry) (after : Library) : Prop where
  live : after.liveBuffers = before.liveBuffers
  freed : after.freedBuffers = before.freedBuffers + Trace.buffers entries

namespace Balances

variable {first second third : Library} {entries more : List Entry}

theorem refl (library : Library) : library.Balances [] library := ⟨rfl, rfl⟩

theorem trans (left : first.Balances entries second) (right : second.Balances more third) :
    first.Balances (entries ++ more) third where
  live := right.live.trans left.live
  freed := by rw [right.freed, left.freed, Trace.buffers_append, Nat.add_assoc]

end Balances

/-- A request can be refused for its handle or its root, and for no buffer. -/
theorem request_known (library : Library) (handle : Handle) (request : Request) :
    (library.request handle request).1 ≠ .error .unknownBuffer := by
  have unlessFailing (library : Library) :
      (library.serveUnlessFailing handle request).1 ≠ .error .unknownBuffer := by
    unfold serveUnlessFailing serve
    repeat' split
    all_goals exact nofun
  unfold Library.request
  split
  · exact nofun
  · split
    · exact nofun
    · exact unlessFailing library
  · exact unlessFailing { library with releases := library.releases + 1 }
  · exact unlessFailing library

theorem ok_ne_unknownBuffer {α : Type} (value : α) :
    (.ok value : Except Misuse α) ≠ .error .unknownBuffer := nofun

theorem answer_bare {call : Call} (bare : call.Bare) (library : Library) :
    library.Balances [] (answer call library).2 ∧
      (answer call library).1 ≠ .error .unknownBuffer := by
  have created (name : String) (record : Record) :
      library.Balances [] (library.create name record).2 := by
    obtain ⟨records, failures, nextHandle, made⟩ := library.create_frame name record
    rw [made]
    exact ⟨rfl, rfl⟩
  cases call with
  | create id | createFromCluster cluster => exact ⟨created _ _, ok_ne_unknownBuffer _⟩
  | request handle request =>
    obtain ⟨records, failures, releases, left⟩ := library.request_frame handle request
    rw [answer, left]
    exact ⟨⟨rfl, rfl⟩, library.request_known handle request⟩
  | readOption handle key buffer | currentDir handle =>
    simp only [answer, look]
    split
    · exact ⟨.refl library, by intro same; cases same⟩
    · exact ⟨.refl library, ok_ne_unknownBuffer _⟩
  | version => exact ⟨.refl library, ok_ne_unknownBuffer _⟩
  | command handle command | freeBuffer part id => cases bare

theorem content_allocate (library : Library) (bytes : Bytes) :
    (library.allocate bytes).1.content = bytes := by
  cases bytes with
  | nil => rfl
  | cons first rest => exact List.take_length

end InMemory.Library

namespace Program

variable {α β : Type}

/-- Whatever library the program runs on, its buffers balance and none that is unknown is freed. -/
def Balanced (program : Program α) : Prop :=
  ∀ library : Library,
    let run := program.run Library.answer library
    library.Balances run.entries run.state ∧ run.result ≠ .error .unknownBuffer

theorem Balanced.done (result : α) : (Program.done result).Balanced :=
  fun library => ⟨.refl library, Library.ok_ne_unknownBuffer result⟩

theorem Balanced.bind {program : Program α} {next : α → Program β} (first : program.Balanced)
    (rest : ∀ result, (next result).Balanced) : (program.bind next).Balanced := by
  intro library
  obtain ⟨balances, known⟩ := first library
  rw [run_bind]
  unfold Run.follow
  split
  next misuse refused =>
    rw [refused] at known
    exact ⟨balances, fun same => known (by cases same; rfl)⟩
  next result given =>
    obtain ⟨later, laterKnown⟩ := rest result (program.run Library.answer library).state
    exact ⟨balances.trans later, laterKnown⟩

theorem Within.balanced {program : Program α} {post : α → Prop}
    (within : program.Within Call.Bare post) : program.Balanced := by
  induction program with
  | done result => exact .done result
  | log event next ih =>
    intro library
    obtain ⟨balances, known⟩ := ih within library
    exact ⟨⟨balances.live, by simpa [run, Entry.buffers] using balances.freed⟩, known⟩
  | call request next ih =>
    intro library
    obtain ⟨bare, within⟩ := within
    obtain ⟨balances, known⟩ := Library.answer_bare bare library
    rw [Program.run]
    split
    next misuse after refused =>
      rw [refused] at balances known
      exact ⟨balances, fun same => known (by cases same; rfl)⟩
    next reply after answered =>
      rw [answered] at balances
      obtain ⟨later, laterKnown⟩ := ih reply (within reply) after
      have none : (Entry.called request reply).buffers = 0 :=
        Entry.buffers_of_ne_command reply fun _ _ same => by subst same; exact bare
      refine ⟨⟨(balances.trans later).live, ?_⟩, laterKnown⟩
      rw [Trace.buffers_cons, none, Nat.zero_add]
      exact (balances.trans later).freed

end Program

namespace Mount

/-- What is done with the answer to a command. -/
def deliver (target : String) (answer : CommandAnswer) : Program CommandReply := do
  let status ← takeBuffer .status answer.status
  let output ← takeBuffer .output answer.output
  let info := Utf8.lossy status
  let error := ErrorCode.ofCode? answer.code
  if let some error := error then
    Program.report (.commandFailed target error info)
  return ⟨output, info, error⟩

theorem send_eq (mount : Mount) (target : String) (command : Command) :
    mount.send target command = .call (.command mount.handle command) (deliver target) := rfl

theorem deliver_within (target : String) (answer : CommandAnswer) :
    (deliver target answer).Within (fun call => ∀ handle command, call ≠ .command handle command)
      fun _ => True := by
  have taken (part : ReplyPart) (returned : Returned) :
      (takeBuffer part returned).Within (fun call => ∀ handle command, call ≠ .command handle command)
        fun _ => True := by
    unfold takeBuffer
    split
    · exact trivial
    · exact ⟨fun _ _ => Call.noConfusion, fun _ => trivial⟩
  simp only [deliver, Program.bind_eq_bind, Program.within_bind]
  apply (taken .status answer.status).mono
  intro status _
  apply (taken .output answer.output).mono
  intro output _
  cases ErrorCode.ofCode? answer.code with
  | none => exact trivial
  | some error => exact trivial

/-- A command that is answered takes its two buffers back, and one on a dead handle gets none. -/
theorem send_balanced (mount : Mount) (target : String) (command : Command) :
    (mount.send target command).Balanced := by
  intro library
  rw [send_eq, Program.run]
  cases found : library.record? mount.handle with
  | none =>
    rw [Library.answer_command_of_dead command found]
    exact ⟨⟨rfl, rfl⟩, by intro same; cases same⟩
  | some record =>
    -- The run parts at the command: its reply brings the buffers, and the rest takes them back.
    obtain ⟨-, answer, between, answered, rest⟩ := Library.send_meets mount target command found
    change Library.answer (.command mount.handle command) library = _ at answered
    change (deliver target answer).Meets _ between _ at rest
    obtain ⟨entries, reply, after, ran, ⟨-, left⟩, -, uncommanded⟩ :=
      (rest.within (deliver_within target answer)).run
    change (deliver target answer).run Library.answer between = _ at ran
    rw [answered]
    simp only [ran, left]
    refine ⟨⟨rfl, ?_⟩, Library.ok_ne_unknownBuffer reply⟩
    -- What the library says of the reply is what the answer holds.
    have held : answer.buffers = (library.commandReply record (.ofCommand command)).buffers := by
      rw [Library.answer_command command found] at answered
      cases answered
      simp [CommandAnswer.buffers, ScriptedReply.buffers, List.countP_cons,
        Library.content_allocate]
    rw [Trace.buffers_cons, Trace.buffers_of_uncommanded uncommanded, Nat.add_zero]
    exact congrArg (library.freedBuffers + ·) held.symm

theorem perform_balanced (mount : Mount) (operation : Operation) :
    (mount.perform operation).Balanced :=
  mount.perform_composed Program.Balanced .done .bind
    (fun within => (within.widen fun _ plain => plain.bare).balanced) mount.send_balanced operation

theorem drop_balanced (mount : Mount) : mount.drop.Balanced :=
  (mount.drop_asks.widen fun _ asks => asks.plain.bare).balanced

theorem release_balanced (mount : Mount) : mount.release.Balanced :=
  (mount.release_asks.widen fun _ asks => asks.plain.bare).balanced

end Mount

/-- A creation sends no command and frees no buffer. -/
theorem Creation.program_bare (creation : Creation) :
    creation.program.Within Call.Bare fun _ => True := by
  refine creation.program_calls_within (fun call creates => ?_) (fun _ _ _ _ => trivial)
    (fun _ => trivial) fun _ => trivial
  cases call with
  | command handle command | freeBuffer part id => cases creates
  | _ => exact trivial

theorem Creation.program_balanced (creation : Creation) : creation.program.Balanced :=
  creation.program_bare.balanced

end CephMount
