import CephMount.Errno
import CephMount.FileName
import CephMount.Ron.Decoded

/-! Configurations from files.

The name is looked up from a directory in which at most the named file or directory has been made.
What the system cannot do, and what the file cannot be read as, are different causes.
-/

set_option autoImplicit false

namespace CephMount

/-- Why a file gave no text. -/
inductive FileFailure where
  | nulInName
  | system (errno : Errno)
  | notText
  deriving DecidableEq, Repr

def FileFailure.message : FileFailure → String
  | .nulInName => "file name contained an unexpected NUL byte"
  | .system errno => errno.description?.getD "" ++ " (os error " ++ toString errno ++ ")"
  | .notText => "stream did not contain valid UTF-8"

def FileFailure.kind : FileFailure → FailureKind
  | .nulInName => .invalidInput
  | .system errno => errno.kind
  | .notText => .invalidData

/-- Why a configuration could not be had. -/
inductive ConfigError where
  | file (path : Bytes) (failure : FileFailure)
  | ron (fault : Ron.LocatedFault)
  deriving DecidableEq, Repr

def ConfigError.message : ConfigError → String
  | .file path failure => "IO error reading " ++ Utf8.lossy path ++ ": " ++ failure.message
  | .ron fault => "RON parse error: " ++ fault.message

/-- What stands at a name. -/
inductive Node where
  | file (content : Bytes)
  | directory
  deriving DecidableEq, Repr

namespace FileName

/-- The longest name that the system takes, and the longest part of one between slashes. -/
def maxPath : Nat := 4095
def maxPart : Nat := 255

/-- Walk from an empty directory. Only parts that stay in place or go up lead anywhere. -/
def walk : List Bytes → Except Errno Node
  | [] => .ok .directory
  | part :: rest =>
    if part ∈ [[], [dot], [dot, dot]] then walk rest
    else if maxPart < part.length then .error Errno.nameTooLong
    else .error Errno.noEntry

/-- Look a name up; `made` is what has been made there. -/
def find (name : Bytes) (made : Option Node) : Except FileFailure Node :=
  if 0 ∈ name then .error .nulInName
  else if name.isEmpty then .error (.system Errno.noEntry)
  else if maxPath < name.length then .error (.system Errno.nameTooLong)
  else match made with
  | some node => .ok node
  | none => (walk (name.splitOn slash)).mapError .system

/-- The text of the file at a name. -/
def readText (name : Bytes) (made : Option Node) : Except FileFailure String :=
  match find name made with
  | .error failure => .error failure
  | .ok .directory => .error (.system Errno.isDirectory)
  | .ok (.file content) => (Utf8.decode content).mapError fun _ => .notText

end FileName

namespace MountConfig

/-- Read a configuration; the error says that the text is at fault. -/
def parse (text : String) : Except ConfigError MountConfig := (ofRon text).mapError .ron

def load (name : Bytes) (made : Option Node) : Except ConfigError MountConfig :=
  match FileName.readText name made with
  | .error failure => .error (.file name failure)
  | .ok text => parse text

end MountConfig

end CephMount
