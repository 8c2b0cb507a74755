import CephMount.Text.Terminated

/-! The calls that cross into the storage library, and what each of them answers.

Text crosses ended by a NUL, results are bare codes, and a command's reply comes back in buffers that
belong to the caller until it hands them back. Nothing is assumed here about the answers.
-/

set_option autoImplicit false

namespace CephMount

/-- A mount context, known by its number alone. -/
structure Handle where
  number : Nat
  deriving DecidableEq, Repr

def Handle.label (handle : Handle) : String := "MockHandle(" ++ toString handle.number ++ ")"

/-- What is asked of a handle and answered by a code. -/
inductive Request where
  /-- No path means the default search path. -/
  | readConfig (path : Option Terminated)
  /-- No name means the default variable. -/
  | parseEnv (name : Option Terminated)
  | setOption (key value : Terminated)
  /-- No root means the root of the file system. -/
  | mount (root : Option Terminated)
  | unmount
  | release
  | isMounted
  | syncFs
  | chdir (path : Terminated)
  | mkdir (path : Terminated) (mode : UInt32)
  | rmdir (path : Terminated)
  | chmod (path : Terminated) (mode : UInt32)
  | chown (path : Terminated) (uid gid : Int32)
  deriving DecidableEq, Repr

def Request.name : Request → String
  | readConfig _ => "conf_read_file"
  | parseEnv _ => "conf_parse_env"
  | setOption _ _ => "conf_set"
  | mount _ => "mount"
  | unmount => "unmount"
  | release => "release"
  | isMounted => "is_mounted"
  | syncFs => "sync_fs"
  | chdir _ => "chdir"
  | mkdir _ _ => "mkdir"
  | rmdir _ => "rmdir"
  | chmod _ _ => "chmod"
  | chown _ _ _ => "chown"

/-- An administrative command as it crosses: the length of the input travels beside it. -/
structure Command where
  target : Terminated
  arguments : List Terminated
  input : Bytes
  deriving DecidableEq, Repr

/-- The identity of a buffer, which tells the library's own from those made in its place. -/
inductive BufferId where
  | library (number : Nat)
  | arranged (number : Nat)
  deriving DecidableEq, Repr

structure Buffer where
  id : BufferId
  bytes : Bytes
  deriving DecidableEq, Repr

/-- One of the two buffers of a reply: a pointer that may be null, and the length said of it. -/
structure Returned where
  buffer : Option Buffer
  length : Nat
  deriving DecidableEq, Repr

/-- A null pointer holds nothing, whatever length comes with it. -/
def Returned.content (returned : Returned) : Bytes :=
  match returned.buffer with
  | none => []
  | some buffer => buffer.bytes.take returned.length

inductive ReplyPart where
  | status
  | output
  deriving DecidableEq, Repr

structure CommandAnswer where
  code : Int32
  output : Returned
  status : Returned
  deriving DecidableEq, Repr

/-- The code of an option look-up, and the caller's buffer as the call left it. -/
structure OptionAnswer where
  code : Int32
  buffer : Bytes
  deriving DecidableEq, Repr

structure VersionAnswer where
  major : Int32
  minor : Int32
  patch : Int32
  text : Option Terminated
  deriving DecidableEq, Repr

inductive Call where
  | create (id : Option Terminated)
  | createFromCluster (cluster : Nat)
  | request (handle : Handle) (request : Request)
  | readOption (handle : Handle) (key : Terminated) (buffer : Bytes)
  | currentDir (handle : Handle)
  | command (handle : Handle) (command : Command)
  | freeBuffer (part : ReplyPart) (id : BufferId)
  | version
  deriving DecidableEq, Repr

/-- What each call answers. A creation that fails answers a code. -/
abbrev Call.Reply : Call → Type
  | create _ | createFromCluster _ => Except Int32 Handle
  | request _ _ => Int32
  | readOption _ _ _ => OptionAnswer
  | currentDir _ => Option Terminated
  | command _ _ => CommandAnswer
  | freeBuffer _ _ => Unit
  | version => VersionAnswer

/-- The handle that a call is made on. -/
def Call.handle? : Call → Option Handle
  | request handle _ | readOption handle _ _ | currentDir handle | command handle _ => some handle
  | create _ | createFromCluster _ | freeBuffer _ _ | version => none

end CephMount
