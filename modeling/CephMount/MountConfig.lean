import CephMount.Bytes
import CephMount.Table

/-! How a mount handle is prepared before it is mounted: the client identity, the configuration file,
an environment variable with further arguments, and single options. Options are kept in the order of
their names, which is the order in which they are applied.
-/

set_option autoImplicit false

namespace CephMount

/-- The path is a byte string, since file names need not be text. No path means the default search
path, unless no file is read at all. -/
structure MountConfig where
  clientId : Option String := none
  configFile : Option Bytes := none
  readConfig : Bool := true
  parseEnv : Option String := none
  options : Table String String := .empty
  deriving DecidableEq, Repr

namespace MountConfig

/-- Reads the default configuration file and asks for nothing else. -/
def default : MountConfig := {}

def withClientId (config : MountConfig) (id : String) : MountConfig :=
  { config with clientId := some id }

/-- Read this file; a file that was to be skipped is read again. -/
def withConfigFile (config : MountConfig) (path : Bytes) : MountConfig :=
  { config with configFile := some path, readConfig := true }

def withoutConfigFile (config : MountConfig) : MountConfig :=
  { config with configFile := none, readConfig := false }

def withParseEnv (config : MountConfig) (name : String) : MountConfig :=
  { config with parseEnv := some name }

def withOption (config : MountConfig) (key value : String) : MountConfig :=
  { config with options := config.options.insert key value }

/-- One step in building a configuration. -/
inductive Edit where
  | clientId (id : String)
  | configFile (path : Bytes)
  | noConfigFile
  | parseEnv (name : String)
  | option (key value : String)
  deriving DecidableEq, Repr

def apply (config : MountConfig) : Edit → MountConfig
  | .clientId id => config.withClientId id
  | .configFile path => config.withConfigFile path
  | .noConfigFile => config.withoutConfigFile
  | .parseEnv name => config.withParseEnv name
  | .option key value => config.withOption key value

/-- The configuration before the first edit and after each. -/
def history (config : MountConfig) : List Edit → List MountConfig
  | [] => [config]
  | edit :: rest => config :: history (config.apply edit) rest

/-- The configuration that a list of edits builds. -/
def build (edits : List Edit) : MountConfig := edits.foldl apply default

end MountConfig

end CephMount
