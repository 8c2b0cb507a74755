import CephMount.Mount

/-! How a mount comes to be: fresh, derived from a cluster connection, or prepared by a configuration.

A preparation that fails gives the handle up before its error is given, so no caller ever holds a
mount that is only partly prepared.
-/

set_option autoImplicit false

namespace CephMount

/-- The steps that a configuration asks for, in order. -/
def MountConfig.settings (config : MountConfig) : List Setting :=
  (if config.readConfig then
    [match config.configFile with
      | some path => .configFile path
      | none => .defaultConfig]
  else []) ++
  (config.parseEnv.map fun name => Setting.environment (some name)).toList ++
  config.options.entries.map fun entry => .option entry.1 entry.2

namespace Mount

/-- The mount for the answer to a creation. A failure is one even when its code is zero, which says
success and is therefore taken for an input/output error. -/
def allocated (call : String) (success : Handle → Event) (answer : Except Int32 Handle) :
    Program (Outcome Mount) :=
  match answer with
  | .ok handle => do
    Program.report (success handle)
    return .ok ⟨handle, .allocated⟩
  | .error code => do
    let error := (ErrorCode.ofCode? code).getD ⟨Errno.inputOutput.code⟩
    Program.report (.allocationFailed call code error)
    return .error (.library error)

/-- Allocate a fresh handle, for a client if one is named. -/
def create (id : Option String) : Program (Outcome Mount) :=
  match Terminated.ofOptionalText id with
  | .error offset => return .error (.interiorNul offset)
  | .ok name => do
    allocated "create" (.allocated id) (← Program.perform (.create name))

/-- Derive a handle from a cluster connection, which stays with its owner. -/
def fromCluster (cluster : Nat) : Program (Outcome Mount) := do
  allocated "create_from_cluster" .derived (← Program.perform (.createFromCluster cluster))

/-- Take the steps in order. The first one that fails ends the mount. -/
def prepare (mount : Mount) : List Setting → Program (Outcome Mount)
  | [] => return .ok mount
  | setting :: rest => do
    match ← mount.configure setting with
    | (.ok (), mount) => mount.prepare rest
    | (.error error, mount) => do
      mount.drop
      return .error error

/-- Allocate a handle and prepare it. It is not mounted. -/
def fromConfig (config : MountConfig) : Program (Outcome Mount) := do
  match ← create config.clientId with
  | .error error => return .error error
  | .ok mount => mount.prepare config.settings

end Mount

/-- The ways to come by a mount. -/
inductive Creation where
  | fresh (id : Option String)
  | derived (cluster : Nat)
  | prepared (config : MountConfig)
  deriving DecidableEq, Repr

def Creation.program : Creation → Program (Outcome Mount)
  | fresh id => Mount.create id
  | derived cluster => Mount.fromCluster cluster
  | prepared config => Mount.fromConfig config

end CephMount
