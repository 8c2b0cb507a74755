import CephMount.Boundary

/-! Operations as their caller states them, and the requests that they become.

Strings of a caller may hold anything. One with a NUL cannot cross, and the first such string, in the
order in which an operation takes them, is why the operation makes no request.
-/

set_option autoImplicit false

namespace CephMount

/-- A step in configuring a handle. -/
inductive Setting where
  | defaultConfig
  /-- The path may be a list with commas, and need not be text. -/
  | configFile (path : Bytes)
  /-- No name means the default variable. -/
  | environment (name : Option String)
  | option (key value : String)
  deriving DecidableEq, Repr

/-- The request for a step, or the offset of the NUL that forbids it. -/
def Setting.request : Setting → Except Nat Request
  | defaultConfig => .ok (.readConfig none)
  | configFile path => do
    return .readConfig (some (← Terminated.ofBytes path))
  | environment name => do
    return .parseEnv (← Terminated.ofOptionalText name)
  | option key value => do
    let key ← Terminated.ofText key
    return .setOption key (← Terminated.ofText value)

/-- Something done to the directory that a path names. -/
inductive PathOperation where
  | enter (path : String)
  | make (path : String) (mode : UInt32)
  | remove (path : String)
  | setMode (path : String) (mode : UInt32)
  | setOwner (path : String) (uid gid : UInt32)
  deriving DecidableEq, Repr

/-- The request for an operation. Identities cross as signed words of the same bits. -/
def PathOperation.request : PathOperation → Except Nat Request
  | enter path => return .chdir (← Terminated.ofText path)
  | make path mode => return .mkdir (← Terminated.ofText path) mode
  | remove path => return .rmdir (← Terminated.ofText path)
  | setMode path mode => return .chmod (← Terminated.ofText path) mode
  | setOwner path uid gid => return .chown (← Terminated.ofText path) uid.toInt32 gid.toInt32

/-- A command as its caller gives it: the words may be any bytes without a NUL, the input any bytes
at all. -/
structure CommandLine where
  target : String
  arguments : List Bytes
  input : Option Bytes
  deriving DecidableEq, Repr

/-- The command as it crosses: the target before the words, and the words in order. -/
def CommandLine.command (line : CommandLine) : Except Nat Command := do
  let target ← Terminated.ofText line.target
  let arguments ← line.arguments.mapM Terminated.ofBytes
  return ⟨target, arguments, line.input.getD []⟩

/-- What can be done with a mount while it is held. -/
inductive Operation where
  | configure (setting : Setting)
  | getOption (key : String)
  | mount
  | unmount
  | isMounted
  | sync
  | currentDir
  | path (operation : PathOperation)
  | command (line : CommandLine)
  deriving DecidableEq, Repr

end CephMount
