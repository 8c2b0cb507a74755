import CephMount.Arguments
import CephMount.Boundary
import CephMount.ErrorCode
import CephMount.FileName
import CephMount.Path
import CephMount.Table

/-! What the in-memory library keeps for one handle, and how it serves a request made on it.

Serving reads the handle's own record and the surroundings that all handles share, and changes nothing
but the record. A request that is refused leaves the record as it was.
-/

set_option autoImplicit false

namespace CephMount.InMemory

structure Attributes where
  mode : UInt32
  uid : UInt32
  gid : UInt32
  deriving DecidableEq, Repr

/-- The bits of a mode that a directory keeps: permissions, set-id and sticky. -/
def modeMask : UInt32 := 0o7777

/-- A directory belongs to the superuser until it is given to someone. -/
def Attributes.ofMode (mode : UInt32) : Attributes := ⟨mode &&& modeMask, 0, 0⟩

structure Record where
  clientId : Option String
  cluster : Option Nat
  mounted : Bool
  workingDir : Terminated
  directories : Table Path Attributes
  options : Table String String
  syncs : Nat
  deriving DecidableEq, Repr

/-- What is found outside of any handle. -/
structure Surroundings where
  defaultConfig : Bool := true
  configFiles : List Bytes := []
  environment : Table String String := .empty
  deriving DecidableEq, Repr

namespace Surroundings

/-- The variable that is read when none is named. -/
def defaultVariable : String := "CEPH_ARGS"

/-- A list of names finds a file when one of its names does. -/
def findsConfig (surroundings : Surroundings) (list : Bytes) : Bool :=
  (FileName.ofList list).any fun name =>
    surroundings.configFiles.any fun file =>
      FileName.components file == FileName.components name

/-- A variable that is not set holds nothing. -/
def variableText (surroundings : Surroundings) (name : Option Terminated) : String :=
  (surroundings.environment.get? ((name.map Terminated.text).getD defaultVariable)).getD ""

end Surroundings

/-- Put a value into the caller's buffer, with a NUL behind it, if both fit. -/
def storeOption (value buffer : Bytes) : OptionAnswer :=
  if buffer.length < value.length + 1 then ⟨Errno.nameTooLong.code, buffer⟩
  else ⟨0, value ++ 0 :: buffer.drop (value.length + 1)⟩

namespace Record

/-- A new handle is not mounted, stands at the root and knows no other directory. -/
def new (clientId : Option String) (cluster : Option Nat) : Record where
  clientId := clientId
  cluster := cluster
  mounted := false
  workingDir := .upToNul (Utf8.encode Path.root.text)
  directories := Table.empty.insert Path.root (.ofMode 0o755)
  options := .empty
  syncs := 0

def resolve (record : Record) (path : String) : Path :=
  Path.resolve record.workingDir.text path

def hasChildren (record : Record) (path : Path) : Bool :=
  record.directories.keys.any fun other => other.parent? == some path

/-! Configuration. -/

def readConfig (record : Record) (surroundings : Surroundings) :
    Option Terminated → Except Errno Record
  | none => if surroundings.defaultConfig then .ok record else .error Errno.noEntry
  | some list =>
    if surroundings.findsConfig list.bytes then .ok record else .error Errno.noEntry

/-- Every setting in the variable's text is made, from left to right. -/
def parseEnv (record : Record) (surroundings : Surroundings) (name : Option Terminated) : Record :=
  let settings := Argument.settingsOf (surroundings.variableText name)
  { record with options := record.options.insertAll settings }

def setOption (record : Record) (key value : String) : Record :=
  { record with options := record.options.insert key value }

/-! Mounting. A request about the file system needs a mounted handle. -/

def mount (record : Record) : Except Errno Record :=
  if record.mounted then .error Errno.alreadyConnected else .ok { record with mounted := true }

def unmount (record : Record) : Except Errno Record :=
  if record.mounted then .ok { record with mounted := false } else .error Errno.notConnected

def whenMounted (record : Record) (result : Except Errno Record) : Except Errno Record :=
  if record.mounted then result else .error Errno.notConnected

/-! Directories. -/

def enter (record : Record) (path : Path) : Except Errno Record :=
  if !record.directories.contains path then .error Errno.noEntry
  else match Terminated.ofText path.text with
  -- The directory may be removed later; it stays the working directory all the same.
  | .ok text => .ok { record with workingDir := text }
  | .error _ => .error Errno.invalidArgument

def makeDir (record : Record) (path : Path) (mode : UInt32) : Except Errno Record :=
  if record.directories.contains path then .error Errno.alreadyThere
  else match path.parent? with
  -- Only the root has no parent, and it is always there.
  | none => .error Errno.alreadyThere
  | some parent =>
    if !record.directories.contains parent then .error Errno.noEntry
    else .ok { record with directories := record.directories.insert path (.ofMode mode) }

def removeDir (record : Record) (path : Path) : Except Errno Record :=
  if path = Path.root then .error Errno.busy
  else if !record.directories.contains path then .error Errno.noEntry
  else if record.hasChildren path then .error Errno.notEmpty
  else .ok { record with directories := record.directories.erase path }

def setAttributes (record : Record) (path : Path) (change : Attributes → Attributes) :
    Except Errno Record :=
  match record.directories.get? path with
  | none => .error Errno.noEntry
  | some attributes =>
    .ok { record with directories := record.directories.insert path (change attributes) }

/-- The record after a request, or why it is refused. -/
def serve (record : Record) (surroundings : Surroundings) : Request → Except Errno Record
  | .readConfig list => record.readConfig surroundings list
  | .parseEnv name => .ok (record.parseEnv surroundings name)
  | .setOption key value => .ok (record.setOption key.text value.text)
  | .mount _ => record.mount
  | .unmount => record.unmount
  | .release => if record.mounted then .error Errno.alreadyConnected else .ok record
  | .isMounted => .ok record
  | .syncFs => record.whenMounted (.ok { record with syncs := record.syncs + 1 })
  | .chdir path => record.whenMounted (record.enter (record.resolve path.text))
  | .mkdir path mode => record.whenMounted (record.makeDir (record.resolve path.text) mode)
  | .rmdir path => record.whenMounted (record.removeDir (record.resolve path.text))
  | .chmod path mode => record.whenMounted <|
      record.setAttributes (record.resolve path.text) fun attributes =>
        { attributes with mode := mode &&& modeMask }
  | .chown path uid gid => record.whenMounted <|
      record.setAttributes (record.resolve path.text) fun attributes =>
        { attributes with uid := uid.toUInt32, gid := gid.toUInt32 }

def readOption (record : Record) (key : String) (buffer : Bytes) : OptionAnswer :=
  match record.options.get? key with
  | none => ⟨Errno.noEntry.code, buffer⟩
  | some value => storeOption (Utf8.encode value) buffer

end Record

end CephMount.InMemory
