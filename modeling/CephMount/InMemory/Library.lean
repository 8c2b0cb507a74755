import CephMount.InMemory.Record
import CephMount.Program

/-! A storage library held in memory, as one boundary for any number of mounts.

Handles are numbered and never given out twice. A failure can be laid up for a call by name; the next
such call takes it, returns its code and has no other effect. Replies to commands are scripted, and
their buffers are accounted for until they come back.
-/

set_option autoImplicit false

namespace CephMount.InMemory

structure ScriptedReply where
  code : Int32
  output : Bytes
  info : String
  deriving DecidableEq, Repr

/-- The reply to one exact command, whatever its input. -/
structure Script where
  target : String
  arguments : List Bytes
  reply : ScriptedReply
  deriving DecidableEq, Repr

/-- A command as it was received. -/
structure RecordedCommand where
  target : String
  arguments : List Bytes
  input : Bytes
  deriving DecidableEq, Repr

/-- How many places in memory a command takes: its target, each argument and its input. -/
def RecordedCommand.pointers (command : RecordedCommand) : Nat := command.arguments.length + 2

structure Library where
  nextHandle : Nat := 1
  records : Table Nat Record := .empty
  surroundings : Surroundings := {}
  /-- The code of the next call of each name. -/
  failures : Table String Int32 := .empty
  /-- The latest one first. -/
  scripts : List Script := []
  /-- In the order in which they came. -/
  commands : List RecordedCommand := []
  liveBuffers : List Nat := []
  freedBuffers : Nat := 0
  /-- Calls of release, also those that failed. -/
  releases : Nat := 0
  deriving DecidableEq, Repr

namespace Library

def record? (library : Library) (handle : Handle) : Option Record :=
  library.records.get? handle.number

def liveHandles (library : Library) : Nat := library.records.size

def outstanding (library : Library) : Nat := library.liveBuffers.length

/-! Control from outside of the boundary. -/

def failNext (library : Library) (call : String) (code : Int32) : Library :=
  { library with failures := library.failures.insert call code }

def setDefaultConfig (library : Library) (present : Bool) : Library :=
  { library with surroundings := { library.surroundings with defaultConfig := present } }

def addConfigFile (library : Library) (path : Bytes) : Library :=
  { library with surroundings :=
    { library.surroundings with configFiles := path :: library.surroundings.configFiles } }

def setVariable (library : Library) (name value : String) : Library :=
  { library with surroundings :=
    { library.surroundings with
      environment := library.surroundings.environment.insert name value } }

def addScript (library : Library) (script : Script) : Library :=
  { library with scripts := script :: library.scripts }

/-- Set the flag of a handle behind the back of whoever holds it. -/
def setMountedFlag (library : Library) (handle : Handle) (mounted : Bool) : Library :=
  { library with records :=
    library.records.modify handle.number fun record => { record with mounted := mounted } }

def attributes? (library : Library) (handle : Handle) (path : String) : Option Attributes := do
  let record ← library.record? handle
  record.directories.get? (record.resolve path)

/-! Creation. -/

/-- Take the failure that is laid up for a call. -/
def takeFailure (library : Library) (call : String) : Option Int32 × Library :=
  (library.failures.get? call, { library with failures := library.failures.erase call })

def newHandle (library : Library) (record : Record) : Handle × Library :=
  (⟨library.nextHandle⟩,
    { library with
      nextHandle := library.nextHandle + 1
      records := library.records.insert library.nextHandle record })

def create (library : Library) (call : String) (record : Record) :
    Except Int32 Handle × Library :=
  match library.takeFailure call with
  | (some code, library) => (.error code, library)
  | (none, library) =>
    let (handle, library) := library.newHandle record
    (.ok handle, library)

/-! Requests. -/

/-- The name under which a failure can be laid up for a request. Asking for the flag never fails. -/
def failureName? : Request → Option String
  | .isMounted => none
  | request => some request.name

/-- Take the failure for a request, if it can have one. -/
def takeRequestFailure (library : Library) (request : Request) : Option Int32 × Library :=
  match failureName? request with
  | none => (none, library)
  | some name => library.takeFailure name

/-- What a request that was served answers. -/
def answerCode (record : Record) : Request → Int32
  | .isMounted => if record.mounted then 1 else 0
  | _ => 0

/-- Serve a request that no failure stopped. A release that is granted ends the handle. -/
def serve (library : Library) (handle : Handle) (request : Request) :
    Except Misuse Int32 × Library :=
  match library.record? handle with
  | none => (.error (.usedAfterRelease handle), library)
  | some record => match record.serve library.surroundings request with
    | .error errno => (.ok errno.code, library)
    | .ok after =>
      let records := match request with
        | .release => library.records.erase handle.number
        | _ => library.records.insert handle.number after
      (.ok (answerCode record request), { library with records })

/-- A failure that is laid up comes before anything else that can go wrong. -/
def serveUnlessFailing (library : Library) (handle : Handle) (request : Request) :
    Except Misuse Int32 × Library :=
  match library.takeRequestFailure request with
  | (some code, library) => (.ok code, library)
  | (none, library) => library.serve handle request

/-- Only the root is ever mounted. Reading a configuration looks the handle up first, and a release is
counted whatever becomes of it. -/
def request (library : Library) (handle : Handle) (request : Request) :
    Except Misuse Int32 × Library :=
  match request with
  -- This is refused even for a handle that is dead or about to fail.
  | .mount (some _) => (.error .mountedElsewhere, library)
  | .readConfig _ =>
    if (library.record? handle).isNone then (.error (.usedAfterRelease handle), library)
    else library.serveUnlessFailing handle request
  | .release =>
    { library with releases := library.releases + 1 }.serveUnlessFailing handle request
  | _ => library.serveUnlessFailing handle request

/-! Commands. -/

/-- Hand out a buffer; nothing is handed out as a null pointer. Every number below the sum has been
used, so the sum has not. -/
def allocate (library : Library) (bytes : Bytes) : Returned × Library :=
  if bytes.isEmpty then (⟨none, 0⟩, library)
  else
    let number := library.freedBuffers + library.liveBuffers.length
    (⟨some ⟨.library number, bytes⟩, bytes.length⟩,
      { library with liveBuffers := number :: library.liveBuffers })

def free (library : Library) : BufferId → Except Misuse Unit × Library
  | .library number =>
    if number ∈ library.liveBuffers then
      (.ok (), { library with
        liveBuffers := library.liveBuffers.erase number
        freedBuffers := library.freedBuffers + 1 })
    else (.error .unknownBuffer, library)
  | .arranged _ => (.error .unknownBuffer, library)

/-- The reply to a command on a mounted handle: that of the latest script for it. -/
def scriptedReply (library : Library) (target : String) (arguments : List Bytes) : ScriptedReply :=
  match library.scripts.find? fun script =>
      script.target == target && script.arguments == arguments with
  | some script => script.reply
  | none => ⟨Errno.invalidArgument.code, [], "unrecognized command"⟩

def commandReply (library : Library) (record : Record) (command : RecordedCommand) :
    ScriptedReply :=
  if record.mounted then library.scriptedReply command.target command.arguments
  else ⟨Errno.notConnected.code, [], ""⟩

/-- Every command is recorded before anything else. -/
def command (library : Library) (handle : Handle) (command : Command) :
    Except Misuse CommandAnswer × Library :=
  let received : RecordedCommand :=
    ⟨command.target.text, command.arguments.map Terminated.bytes, command.input⟩
  let library := { library with commands := library.commands ++ [received] }
  match library.record? handle with
  | none => (.error (.usedAfterRelease handle), library)
  | some record =>
    let reply := library.commandReply record received
    let (output, library) := library.allocate reply.output
    let (status, library) := library.allocate (Utf8.encode reply.info)
    (.ok ⟨reply.code, output, status⟩, library)

/-! The boundary. -/

def version : VersionAnswer := ⟨19, 2, 0, some (.upToNul (Utf8.encode "19.2.0 (mock)"))⟩

/-- What a call that only looks answers on a handle. -/
def look {α : Type} (library : Library) (handle : Handle) (view : Record → α) :
    Except Misuse α × Library :=
  match library.record? handle with
  | none => (.error (.usedAfterRelease handle), library)
  | some record => (.ok (view record), library)

def answer : Boundary Library
  | .create id, library =>
    let (created, library) := library.create "create" (.new (id.map Terminated.text) none)
    (.ok created, library)
  | .createFromCluster cluster, library =>
    let (created, library) := library.create "create_from_cluster" (.new none (some cluster))
    (.ok created, library)
  | .request handle request, library => library.request handle request
  | .readOption handle key buffer, library =>
    library.look handle fun record => record.readOption key.text buffer
  | .currentDir handle, library => library.look handle fun record => some record.workingDir
  | .command handle command, library => library.command handle command
  | .freeBuffer _ id, library => library.free id
  | .version, library => (.ok version, library)

end Library

end CephMount.InMemory
