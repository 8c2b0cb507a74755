import CephMount.ErrorCode
import CephMount.Text.Utf8

/-! What an administrative command produced. A reply keeps everything that came back, also of a
command that failed.
-/

set_option autoImplicit false

namespace CephMount

structure CommandReply where
  output : Bytes
  info : String
  error : Option ErrorCode
  deriving DecidableEq, Repr

/-- A command that returned an error, with what came back besides. -/
structure CommandFailure where
  error : ErrorCode
  info : String
  output : Bytes
  deriving DecidableEq, Repr

namespace CommandReply

def isSuccess (reply : CommandReply) : Bool := reply.error.isNone

/-- The output as text, which it need not be. -/
def outputText (reply : CommandReply) : Except Utf8.Malformation String := Utf8.decode reply.output

/-- The output and status text, or the failure. -/
def result (reply : CommandReply) : Except CommandFailure (Bytes × String) :=
  match reply.error with
  | none => .ok (reply.output, reply.info)
  | some error => .error ⟨error, reply.info, reply.output⟩

end CommandReply

def CommandFailure.message (failure : CommandFailure) : String :=
  if failure.info.isEmpty then failure.error.message
  else failure.error.message ++ ": " ++ failure.info

end CephMount
