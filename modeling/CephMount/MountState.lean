/-! The life of a mount handle, as its owner tracks it.

A handle that exists has been allocated, and releasing it ends it, so neither the time before nor the
time after has a state.
-/

set_option autoImplicit false

namespace CephMount

inductive MountState where
  | allocated
  | configured
  | mounted
  | unmounted
  deriving DecidableEq, Repr

namespace MountState

def all : List MountState := [allocated, configured, mounted, unmounted]

def name : MountState → String
  | allocated => "allocated"
  | configured => "configured"
  | mounted => "mounted"
  | unmounted => "unmounted"

/-- The name with a capital, as it stands in a description of the handle. -/
def label : MountState → String
  | allocated => "Allocated"
  | configured => "Configured"
  | mounted => "Mounted"
  | unmounted => "Unmounted"

/-- Names are read without regard to the case of ASCII letters. -/
def ofText? (text : String) : Option MountState :=
  all.find? fun state => state.name.toList == text.toList.map Char.toLower

def unknownMessage : String := "Matching variant not found"

theorem ofText?_name (state : MountState) : ofText? state.name = some state := by
  cases state <;> decide

theorem eq_of_name_eq {first second : MountState} (same : first.name = second.name) : first = second :=
  Option.some.inj (by rw [← ofText?_name, same, ofText?_name])

def isMounted (state : MountState) : Bool := state == mounted

/-- The state after a successful configuration call: only a fresh handle moves on, and configuring a
handle while it is mounted or unmounted keeps its state. -/
def afterConfigure : MountState → MountState
  | allocated => configured
  | state => state

end MountState

end CephMount
