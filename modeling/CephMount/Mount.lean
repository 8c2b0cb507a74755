import CephMount.Error
import CephMount.Operation
import CephMount.Program

/-! One mount handle and the operations on it.

A string with a NUL is refused before any call. Every code that the library answers is checked, and a
failure is reported once. The tracked state follows what succeeded, never the library's flag.
-/

set_option autoImplicit false

namespace CephMount

/-- A handle that has been allocated and not given up, with the state that its owner tracks. -/
structure Mount where
  handle : Handle
  state : MountState
  deriving DecidableEq, Repr

/-- What an operation gives when it succeeds. -/
inductive Answer where
  | nothing
  | text (value : String)
  | flag (value : Bool)
  | reply (reply : CommandReply)
  deriving DecidableEq, Repr

abbrev Outcome (α : Type) := Except Error α

/-- Check the code of a call, and report a failure. -/
def checkedCode (call : String) (code : Int32) : Program (Outcome Unit) :=
  match check code with
  | .ok () => return .ok ()
  | .error error => do
    Program.report (.callFailed call error)
    return .error (.library error)

namespace Mount

def description (mount : Mount) : String :=
  "Mount \x7b handle: " ++ mount.handle.label ++ ", state: " ++ mount.state.label ++ " \x7d"

def ask (mount : Mount) (request : Request) : Program Int32 :=
  Program.perform (.request mount.handle request)

def checked (mount : Mount) (request : Request) : Program (Outcome Unit) := do
  checkedCode request.name (← mount.ask request)

/-! Configuration. -/

/-- The state after a configuration call that succeeded, which is reported if it is another one. -/
def markConfigured (mount : Mount) : Program Mount := do
  let after := mount.state.afterConfigure
  if after = mount.state then return mount
  Program.report (.configured mount.state after)
  return { mount with state := after }

def configure (mount : Mount) (setting : Setting) : Program (Outcome Unit × Mount) :=
  match setting.request with
  | .error offset => return (.error (.interiorNul offset), mount)
  | .ok request => do
    match ← mount.checked request with
    | .error error => return (.error error, mount)
    | .ok () => return (.ok (), ← mount.markConfigured)

/-- The first buffer offered for an option's value. -/
def firstBuffer : Nat := 256

/-- How often the buffer may be doubled. -/
def bufferGrowths : Nat := 8

/-- Look an option up with a fresh buffer. A value that is too long for it is asked for again with a
buffer of twice the size, as often as `growths` says. -/
def readOption (mount : Mount) (key : Terminated) : (growths size : Nat) → Program (Outcome String)
  | growths, size => do
    let answer ← Program.perform
      (.readOption mount.handle key (List.replicate size 0))
    match growths with
    | growths + 1 =>
      if answer.code = Errno.nameTooLong.code then mount.readOption key growths (2 * size)
      else finish answer
    | 0 => finish answer
where
  finish (answer : OptionAnswer) : Program (Outcome String) := do
    match ← checkedCode "conf_get" answer.code with
    | .error error => return .error error
    | .ok () => return .ok (Terminated.upToNul answer.buffer).text

def getOption (mount : Mount) (key : String) : Program (Outcome String) :=
  match Terminated.ofText key with
  | .error offset => return .error (.interiorNul offset)
  | .ok key => mount.readOption key bufferGrowths firstBuffer

/-! Mounting. -/

def transition (mount : Mount) (after : MountState) : Program Mount := do
  Program.report (.stateChanged mount.handle mount.state after)
  return { mount with state := after }

/-- Mount the root of the file system. -/
def mount (mount : Mount) : Program (Outcome Unit × Mount) := do
  match ← mount.checked (.mount none) with
  | .error error => return (.error error, mount)
  | .ok () => return (.ok (), ← mount.transition .mounted)

/-- Unmounting again is left to the library to refuse. -/
def unmount (mount : Mount) : Program (Outcome Unit × Mount) := do
  match ← mount.checked .unmount with
  | .error error => return (.error error, mount)
  | .ok () => return (.ok (), ← mount.transition .unmounted)

/-- The library's own flag. That it contradicts the tracked state is reported and nothing else. -/
def isMounted (mount : Mount) : Program Bool := do
  let native := (← mount.ask .isMounted) == 1
  if native != mount.state.isMounted then
    Program.report (.flagDisagrees mount.handle mount.state native)
  return native

def sync (mount : Mount) : Program (Outcome Unit) := mount.checked .syncFs

/-! Paths. -/

/-- The working directory, empty when the library has none. -/
def currentDir (mount : Mount) : Program String := do
  return ((← Program.perform (.currentDir mount.handle)).map Terminated.text).getD ""

def atPath (mount : Mount) (operation : PathOperation) : Program (Outcome Unit) :=
  match operation.request with
  | .error offset => return .error (.interiorNul offset)
  | .ok request => mount.checked request

/-! Commands. -/

/-- Copy a buffer out and hand it back, also when its length is zero. -/
def takeBuffer (part : ReplyPart) (returned : Returned) : Program Bytes := do
  match returned.buffer with
  | none => return returned.content
  | some buffer =>
    Program.perform (.freeBuffer part buffer.id)
    return returned.content

/-- Send a command once. A command that the library rejects is a reply, not an error. -/
def send (mount : Mount) (target : String) (command : Command) : Program CommandReply := do
  let answer ← Program.perform (.command mount.handle command)
  -- Both buffers go back before the code is looked at, so a failure keeps none.
  let status ← takeBuffer .status answer.status
  let output ← takeBuffer .output answer.output
  let info := Utf8.lossy status
  let error := ErrorCode.ofCode? answer.code
  if let some error := error then
    Program.report (.commandFailed target error info)
  return ⟨output, info, error⟩

/-- A command without words is refused whatever its target is. -/
def command (mount : Mount) (line : CommandLine) : Program (Outcome CommandReply) :=
  if line.arguments.isEmpty then return .error .emptyCommand
  else match line.command with
  | .error offset => return .error (.interiorNul offset)
  | .ok command => do return .ok (← mount.send line.target command)

/-- Any one operation, with the mount after it. -/
def perform (mount : Mount) : Operation → Program (Outcome Answer × Mount)
  | .configure setting => do
    let (outcome, mount) ← mount.configure setting
    return (outcome.map fun () => .nothing, mount)
  | .mount => do
    let (outcome, mount) ← mount.mount
    return (outcome.map fun () => .nothing, mount)
  | .unmount => do
    let (outcome, mount) ← mount.unmount
    return (outcome.map fun () => .nothing, mount)
  | .getOption key => do return ((← mount.getOption key).map .text, mount)
  | .isMounted => do return (.ok (.flag (← mount.isMounted)), mount)
  | .sync => do return ((← mount.sync).map fun () => .nothing, mount)
  | .currentDir => do return (.ok (.text (← mount.currentDir)), mount)
  | .path operation => do return ((← mount.atPath operation).map fun () => .nothing, mount)
  | .command line => do return ((← mount.command line).map .reply, mount)

/-! The end of a mount. -/

/-- Give the handle up without asking for a result: unmount it if it is tracked as mounted, and
release it once. Failures are reported, for nobody else is told. -/
def drop (mount : Mount) : Program Unit := do
  if mount.state.isMounted then
    if let .error error := check (← mount.ask .unmount) then
      Program.report (.droppedUnmountFailed mount.handle error)
  match check (← mount.ask .release) with
  | .ok () => Program.report (.droppedReleased mount.handle)
  | .error error => Program.report (.droppedReleaseFailed mount.handle error)

/-- Release the handle. If the library refuses, the error is given and the handle is dropped, which
releases it again. -/
def release (mount : Mount) : Program (Outcome Unit) := do
  let code ← mount.ask .release
  if code = 0 then
    Program.report (.released mount.handle)
    return .ok ()
  Program.report (.releaseRefused mount.handle code)
  -- The first refusal is the result, whatever becomes of the second attempt.
  let result ← checkedCode Request.release.name code
  mount.drop
  return result

end Mount

end CephMount
