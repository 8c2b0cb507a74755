import CephMount.Boundary
import CephMount.ErrorCode
import CephMount.MountState
import CephMount.Text.Quoted

/-! What a mount reports about itself: one event for each failure of the library, for each change of
its state, and for its beginning and end.
-/

set_option autoImplicit false

namespace CephMount

inductive Level where
  | debug
  | warn
  deriving DecidableEq, Repr

def Level.name : Level → String
  | .debug => "DEBUG"
  | .warn => "WARN"

inductive FieldValue where
  | text (value : String)
  | code (value : Int32)
  | flag (value : Bool)
  deriving DecidableEq, Repr

inductive Event where
  /-- The code is what the library answered; a zero is reported as another error. -/
  | allocationFailed (call : String) (code : Int32) (error : ErrorCode)
  | allocated (id : Option String) (handle : Handle)
  | derived (handle : Handle)
  | callFailed (call : String) (error : ErrorCode)
  | configured (before after : MountState)
  | stateChanged (handle : Handle) (before after : MountState)
  | flagDisagrees (handle : Handle) (state : MountState) (native : Bool)
  | commandFailed (target : String) (error : ErrorCode) (info : String)
  | released (handle : Handle)
  | releaseRefused (handle : Handle) (code : Int32)
  | droppedUnmountFailed (handle : Handle) (error : ErrorCode)
  | droppedReleased (handle : Handle)
  | droppedReleaseFailed (handle : Handle) (error : ErrorCode)
  deriving DecidableEq, Repr

namespace Event

/-- What goes wrong where no caller is told, and what contradicts the tracked state, is a warning. -/
def level : Event → Level
  | flagDisagrees .. | releaseRefused .. | droppedUnmountFailed .. | droppedReleaseFailed .. => .warn
  | _ => .debug

def message : Event → String
  | allocationFailed .. => "mount context allocation failed"
  | allocated .. => "mount context allocated"
  | derived .. => "mount context derived from cluster connection"
  | callFailed .. => "cephfs call failed"
  | configured .. | stateChanged .. => "mount state"
  | flagDisagrees .. => "native mount flag disagrees with tracked state"
  | commandFailed .. => "mds command failed"
  | released .. => "mount context released"
  | releaseRefused .. => "ceph_release failed; retrying on drop"
  | droppedUnmountFailed .. => "unmount on drop failed"
  | droppedReleased .. => "mount context released on drop"
  | droppedReleaseFailed .. => "release on drop failed"

def fields : Event → List (String × FieldValue)
  | allocationFailed call code error =>
      [("op", .text call), ("code", .code code), ("err", .text error.message)]
  | allocated id handle =>
      [("id", .text (Quoted.optionalText id)), ("handle", .text handle.label)]
  | derived handle | released handle | droppedReleased handle => [("handle", .text handle.label)]
  | callFailed call error =>
      [("op", .text call), ("code", .code error.code), ("err", .text error.message)]
  | configured before after => [("from", .text before.name), ("to", .text after.name)]
  | stateChanged handle before after =>
      [("handle", .text handle.label), ("from", .text before.name), ("to", .text after.name)]
  | flagDisagrees handle state native =>
      [("handle", .text handle.label), ("state", .text state.name), ("native", .flag native)]
  | commandFailed target error info =>
      [("mds_spec", .text target), ("code", .code error.code), ("err", .text error.message),
        ("info", .text info)]
  | releaseRefused handle code => [("handle", .text handle.label), ("code", .code code)]
  | droppedUnmountFailed handle error | droppedReleaseFailed handle error =>
      [("handle", .text handle.label), ("err", .text error.message)]

end Event

end CephMount
