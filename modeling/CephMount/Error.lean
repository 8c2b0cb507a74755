import CephMount.CommandReply
import CephMount.MountConfig.Load

/-! Everything that an operation on a mount can fail with. -/

set_option autoImplicit false

namespace CephMount

inductive Error where
  /-- The library returned a failure. -/
  | library (error : ErrorCode)
  | command (failure : CommandFailure)
  /-- An argument holds a NUL; its first one is at this offset. -/
  | interiorNul (offset : Nat)
  /-- A command has no words. -/
  | emptyCommand
  | config (error : ConfigError)
  deriving DecidableEq, Repr

def Error.message : Error → String
  | .library error => error.message
  | .command failure => failure.message
  | .interiorNul offset => "argument contains a NUL byte at offset " ++ toString offset
  | .emptyCommand => "MDS command requires at least one argument"
  | .config error => error.message

/-- The library's error, if that is where this one came from. -/
def Error.libraryError? : Error → Option ErrorCode
  | .library error => some error
  | .command failure => some failure.error
  | _ => none

end CephMount
