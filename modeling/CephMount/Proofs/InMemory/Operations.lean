import CephMount.Proofs.InMemory.Requests

/-! What an operation on a held mount does to the in-memory library.

Main statement: no call of an operation on a live handle is refused, and all that belongs to other
handles is kept. While no failure of code zero is laid up, the flag of the handle and the tracked
state of the mount keep saying the same.
-/

set_option autoImplicit false

namespace CephMount.InMemory

namespace Library

/-- No failure that is laid up says success. -/
def FailuresFail (library : Library) : Prop := ∀ call, library.failures.get? call ≠ some 0

variable {library : Library} {handle : Handle} {record : Record} {request : Request}

theorem FailuresFail.pending?_ne (fail : library.FailuresFail) : library.pending? request ≠ some 0 := by
  intro pending
  cases request with
  | isMounted => cases pending
  | _ => exact fail _ pending

theorem quiet_meets {α : Type} {program : Program α} {post : α → Prop}
    (within : program.Within (Call.Quiet handle) post) (live : library.isLive handle = true) :
    program.Meets discipline library fun _ result after =>
      post result ∧ Keeps handle library after ∧ after.flag? handle = library.flag? handle := by
  refine within.meets (fun call between quiet kept => ?_) ⟨.refl handle library, rfl⟩
  have alive : between.isLive handle = true := kept.1.live.trans live
  obtain ⟨reply, after, answered, keeps, same⟩ := answer_quiet quiet alive
  refine ⟨fun holder onHolder => ?_, reply, after, answered, kept.1.trans keeps, same.trans kept.2⟩
  rcases (Call.Uses.quiet quiet).handle? with free | onHandle
  · rw [free] at onHolder
    cases onHolder
  · rw [onHandle] at onHolder
    cases onHolder
    exact alive

/-- The library with other buffers out, and another count of those that came back. -/
def withBuffers (library : Library) (live : List Nat) (freed : Nat) : Library :=
  { library with liveBuffers := live, freedBuffers := freed }

theorem allocate_eq (library : Library) (bytes : Bytes) :
    (library.allocate bytes).2 =
      library.withBuffers (library.allocate bytes).2.liveBuffers library.freedBuffers := by
  cases bytes <;> rfl

/-- A buffer that was handed out last comes back, and the library is as if it had never been out. -/
theorem takeBuffer_meets (part : ReplyPart) (bytes : Bytes) (before library : Library)
    (top : library.liveBuffers = (before.allocate bytes).2.liveBuffers) :
    (Mount.takeBuffer part (before.allocate bytes).1).Meets discipline library
      fun _ taken after => taken = bytes ∧
        after = library.withBuffers before.liveBuffers
          (library.freedBuffers + if bytes.isEmpty then 0 else 1) := by
  cases bytes with
  | nil =>
    change library.liveBuffers = before.liveBuffers at top
    refine ⟨rfl, ?_⟩
    rw [← top]
    rfl
  | cons first rest =>
    let number := before.freedBuffers + before.liveBuffers.length
    change library.liveBuffers = number :: before.liveBuffers at top
    have freed : library.free (.library number) =
        (.ok (), library.withBuffers before.liveBuffers (library.freedBuffers + 1)) := by
      simp [free, top, withBuffers]
    exact ⟨fun _ onHandle => (nomatch onHandle), (), _, freed, List.take_length, rfl⟩

end Library

def RecordedCommand.ofCommand (command : Command) : RecordedCommand :=
  ⟨command.target.text, command.arguments.map Terminated.bytes, command.input⟩

/-- How many buffers a reply comes in; nothing comes in none. -/
def ScriptedReply.buffers (reply : ScriptedReply) : Nat :=
  (if (Utf8.encode reply.info).isEmpty then 0 else 1) + if reply.output.isEmpty then 0 else 1

namespace Library

variable {library : Library} {handle : Handle} {record : Record} {request : Request}

/-- A command on a live handle is recorded, and the reply to it goes out in fresh buffers. -/
theorem answer_command {handle : Handle} (command : Command)
    (found : library.record? handle = some record) :
    let received := RecordedCommand.ofCommand command
    let own := library.commandReply record received
    let output := { library with commands := library.commands ++ [received] }.allocate own.output
    let status := output.2.allocate (Utf8.encode own.info)
    answer (.command handle command) library = (.ok ⟨own.code, output.1, status.1⟩, status.2) := by
  simp only [answer, Library.command]
  split
  next absent => cases absent.symm.trans found
  next other same => cases same.symm.trans found; rfl

/-- A command on a dead handle is recorded as well, and then refused. -/
theorem answer_command_of_dead {handle : Handle} (command : Command)
    (dead : library.record? handle = none) :
    answer (.command handle command) library = (.error (.usedAfterRelease handle),
      { library with commands := library.commands ++ [RecordedCommand.ofCommand command] }) := by
  simp only [answer, Library.command]
  split
  next absent => rfl
  next other same => cases same.symm.trans dead

/-- A command on a live handle is recorded, and its reply reaches the caller whole; the buffers of the
reply have come back when it does. -/
theorem send_meets (mount : Mount) (target : String) (command : Command)
    (found : library.record? mount.handle = some record) :
    let received := RecordedCommand.ofCommand command
    let own := library.commandReply record received
    (mount.send target command).Meets discipline library fun _ reply after =>
      reply = ⟨own.output, own.info, ErrorCode.ofCode? own.code⟩ ∧
        after = { library with
          commands := library.commands ++ [received]
          freedBuffers := library.freedBuffers + own.buffers } := by
  intro received own
  let recorded : Library := { library with commands := library.commands ++ [received] }
  let info := Utf8.encode own.info
  let output := recorded.allocate own.output
  let status := output.2.allocate info
  have answered : answer (.command mount.handle command) library =
      (.ok ⟨own.code, output.1, status.1⟩, status.2) := answer_command command found
  have live : library.isLive mount.handle = true := by rw [isLive, found]; rfl
  refine ⟨fun _ onHandle => Option.some.inj onHandle ▸ live, _, _, answered, ?_⟩
  simp only [Program.bind_eq_bind, Program.bind, Program.meets_bind]
  -- The buffers come back in the order opposite to that in which they went out.
  have statusTaken := takeBuffer_meets .status info output.2 status.2 rfl
  apply statusTaken.mono
  intro _ _ between taken
  obtain ⟨rfl, rfl⟩ := taken
  have outputTaken := takeBuffer_meets .output own.output recorded
    (status.2.withBuffers output.2.liveBuffers
      (status.2.freedBuffers + if info.isEmpty then 0 else 1)) rfl
  apply outputTaken.mono
  intro _ _ after taken
  obtain ⟨rfl, rfl⟩ := taken
  have left : (status.2.withBuffers output.2.liveBuffers
        (status.2.freedBuffers + if info.isEmpty then 0 else 1)).withBuffers recorded.liveBuffers
        (status.2.freedBuffers + (if info.isEmpty then 0 else 1) + if own.output.isEmpty then 0 else 1) =
      { library with
        commands := library.commands ++ [received]
        freedBuffers := library.freedBuffers + own.buffers } := by
    rw [show status.2 = _ from allocate_eq output.2 info, show output.2 = _ from allocate_eq recorded _]
    simp only [withBuffers, ScriptedReply.buffers, Nat.add_assoc]
    rfl
  cases ErrorCode.ofCode? own.code with
  | none => exact ⟨by rw [Utf8.lossy_encode], left⟩
  | some error => exact ⟨by rw [Utf8.lossy_encode], left⟩

end Library

/-! Requests that set the flag. -/

/-- What a request sets the flag to, if it sets it. -/
def setsFlag? : Request → Option Bool
  | .mount none => some true
  | .unmount => some false
  | _ => none

/-- Why the flag is not set to what it is already. -/
def flagErrno (flag : Bool) : Errno := if flag then Errno.alreadyConnected else Errno.notConnected

theorem Record.serve_setsFlag {request : Request} {target : Bool}
    (sets : setsFlag? request = some target) (record : Record) (surroundings : Surroundings) :
    record.serve surroundings request =
      if record.mounted = target then .error (flagErrno target)
      else .ok { record with mounted := target } := by
  cases request with
  | mount root =>
    cases root with
    | some root => cases sets
    | none =>
      cases sets
      rfl
  | unmount =>
    cases sets
    cases mounted : record.mounted <;> simp [Record.serve, Record.unmount, mounted, flagErrno]
  | _ => cases sets

namespace Library

variable {library : Library} {handle : Handle} {record : Record} {request : Request} {target : Bool}

/-- The flag is set unless a failure is laid up. -/
theorem Serves.flag?_set {code : Int32} {after : Library} (sets : setsFlag? request = some target)
    (serves : Serves library handle record request code after)
    (live : library.record? handle = some record) :
    after.flag? handle =
      some (if (library.pending? request).isSome then record.mounted else target) := by
  have charged : (library.charge request).flag? handle = some record.mounted := by
    rw [Library.flag?, record?_charge, live]
    rfl
  cases serves with
  | failed pending => rw [pending, charged]; rfl
  | refused pending refused =>
    rw [Record.serve_setsFlag sets] at refused
    split at refused
    next already => rw [pending, charged, already]; rfl
    · cases refused
  | served pending served =>
    rw [Record.serve_setsFlag sets] at served
    split at served
    · cases served
    · cases served
      rw [pending]
      cases request with
      | mount root => simp [Library.flag?, settle, record?]
      | unmount => simp [Library.flag?, settle, record?]
      | _ => cases sets

theorem Serves.code_set {code : Int32} {after : Library} (sets : setsFlag? request = some target)
    (serves : Serves library handle record request code after) :
    code = (library.pending? request).getD
      (if record.mounted = target then (flagErrno target).code else 0) := by
  cases serves with
  | failed pending => rw [pending]; rfl
  | refused pending refused =>
    rw [Record.serve_setsFlag sets] at refused
    split at refused
    next already =>
      cases refused
      rw [pending, if_pos already]
      rfl
    · cases refused
  | served pending served =>
    rw [Record.serve_setsFlag sets] at served
    split at served
    · cases served
    next other =>
      rw [pending, if_neg other]
      cases request with
      | mount root => rfl
      | unmount => rfl
      | _ => cases sets

end Library

/-! Operations. -/

/-- The tracked state says what the flag of the handle says. -/
def Agrees (mount : Mount) (library : Library) : Prop :=
  library.flag? mount.handle = some mount.state.isMounted

/-- What an operation on a mount leaves of the mount and of the library. -/
structure Performs (mount : Mount) (before : Library) (after : Mount) (library : Library) : Prop where
  handle : after.handle = mount.handle
  keeps : Library.Keeps mount.handle before library
  agrees : before.FailuresFail → Agrees mount before → Agrees after library

namespace Library

variable {library : Library} {record : Record} {request : Request} {target : Bool}

/-- A request that sets the flag, and the transition that follows it when it succeeds. A code that
lies about success would let the two go apart. -/
theorem advance_meets (mount : Mount) (request : Request) (state : MountState)
    (sets : setsFlag? request = some target) (same : state.isMounted = target)
    (found : library.record? mount.handle = some record) :
    (mount.advance request state).Meets discipline library
      fun _ result after => Performs mount library result.2 after := by
  have live : library.isLive mount.handle = true := by rw [isLive, found]; rfl
  have rooted (root : Terminated) : request ≠ .mount (some root) := fun same => by
    subst same
    cases sets
  have kept : request ≠ .release := fun same => by
    subst same
    cases sets
  obtain ⟨code, after, answered, serves⟩ := request_serves request found rooted
  have keeps := serves.keeps found kept
  have flag := serves.flag?_set sets found
  have codeIs := serves.code_set sets
  refine ⟨fun _ onHandle => Option.some.inj onHandle ▸ live, code, after, answered, ?_⟩
  change ((checkedCode _ code).bind _).Meets _ _ _
  by_cases granted : code = 0
  · -- Zero comes from no failure here, so the request was served and the flag is set.
    subst granted
    rw [checkedCode_zero]
    refine ⟨rfl, keeps, fun fail _ => ?_⟩
    have none : library.pending? request = none := by
      cases pending : library.pending? request with
      | none => rfl
      | some code =>
        rw [pending] at codeIs
        change 0 = code at codeIs
        exact absurd (codeIs ▸ pending) fail.pending?_ne
    rw [none] at flag
    exact flag.trans (congrArg some same.symm)
  · -- The flag is as it was: a failure came first, or it was set so already.
    rw [checkedCode_of_ne _ granted]
    refine ⟨rfl, keeps, fun _ agrees => ?_⟩
    have held : some record.mounted = some mount.state.isMounted := by
      rw [Agrees, Library.flag?, found] at agrees
      exact agrees
    refine flag.trans (Eq.trans ?_ held)
    cases pending : library.pending? request with
    | some failure => rfl
    | none =>
      rw [pending] at codeIs
      by_cases already : record.mounted = target
      · exact congrArg some already.symm
      · exact absurd (codeIs.trans (if_neg already)) granted

/-- No call of an operation on a live handle is refused, and the rest is kept. -/
theorem perform_meets (mount : Mount) (operation : Operation)
    (live : library.isLive mount.handle = true) :
    (mount.perform operation).Meets discipline library
      fun _ result after => Performs mount library result.2 after := by
  obtain ⟨record, found⟩ := Option.isSome_iff_exists.mp live
  by_cases quiet : operation.isQuiet = true
  · refine (quiet_meets (mount.perform_quiet quiet) live).mono fun _ result after holds => ?_
    obtain ⟨⟨same, tracked⟩, keeps, flag⟩ := holds
    refine ⟨same, keeps, fun _ agrees => ?_⟩
    rw [Agrees, same, flag, tracked]
    exact agrees
  cases operation with
  | mount =>
    rw [Mount.perform, Mount.mount_eq]
    apply (Program.meets_bind ..).mpr
    exact (advance_meets mount (.mount none) .mounted rfl rfl found).mono fun _ _ _ performs => performs
  | unmount =>
    rw [Mount.perform, Mount.unmount_eq]
    apply (Program.meets_bind ..).mpr
    exact (advance_meets mount .unmount .unmounted rfl rfl found).mono fun _ _ _ performs => performs
  | command line =>
    apply (Program.meets_bind ..).mpr
    unfold Mount.command
    split
    · exact ⟨rfl, .refl _ _, fun _ agrees => agrees⟩
    split
    · exact ⟨rfl, .refl _ _, fun _ agrees => agrees⟩
    next command _ =>
      apply (Program.meets_bind ..).mpr
      apply (send_meets mount line.target command found).mono
      intro _ _ after sent
      obtain ⟨-, rfl⟩ := sent
      exact ⟨rfl, ⟨rfl, fun _ _ => rfl, rfl, rfl, rfl, fun _ _ found => found⟩, fun _ agrees => agrees⟩
  | _ => exact absurd rfl quiet

end Library

end CephMount.InMemory
