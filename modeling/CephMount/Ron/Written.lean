import CephMount.MountConfig
import CephMount.MountState
import CephMount.Text.Quoted
import CephMount.Text.Utf8

/-! Configurations and states as RON text: no blanks, fields in a fixed order, an absent identity,
path or environment variable left out, and both quotation marks hidden inside strings.
-/

set_option autoImplicit false

namespace CephMount.Ron

/-- Both quotation marks are hidden, whichever of them encloses the text. -/
def marks : List Char := ['"', '\'']

def writeString (value : String) : List Char :=
  ['"'] ++ value.toList.flatMap (Quoted.escape marks) ++ ['"']

def writeBool (value : Bool) : List Char := if value then "true".toList else "false".toList

def writeOption : Option String → List Char
  | some value => "Some(".toList ++ writeString value ++ [')']
  | none => "None".toList

/-- Items between brackets, with commas between them. -/
def writeEnclosed (opening closing : Char) (items : List (List Char)) : List Char :=
  [opening] ++ [','].intercalate items ++ [closing]

def writeEntry (entry : String × String) : List Char :=
  writeString entry.1 ++ [':'] ++ writeString entry.2

def writeEntries (entries : List (String × String)) : List Char :=
  writeEnclosed '\x7b' '\x7d' (entries.map writeEntry)

def writeField (name : String) (value : List Char) : List Char := name.toList ++ [':'] ++ value

/-- A field that is left out when it holds nothing. -/
def writePresent (name : String) (value : Option String) : List (List Char) :=
  if value.isSome then [writeField name (writeOption value)] else []

end CephMount.Ron

namespace CephMount

/-- Why a configuration cannot be written: RON strings hold text, and the path is none. -/
inductive RonWriteError where
  | pathNotText
  deriving DecidableEq, Repr

def RonWriteError.message : RonWriteError → String
  | .pathNotText => "path contains invalid UTF-8 characters"

/-- The configuration as RON, given the text of its path. -/
def MountConfig.written (config : MountConfig) (path : Option String) : List Char :=
  Ron.writeEnclosed '(' ')' (
    Ron.writePresent "client_id" config.clientId ++
    Ron.writePresent "config_file" path ++
    [Ron.writeField "read_config" (Ron.writeBool config.readConfig)] ++
    Ron.writePresent "parse_env" config.parseEnv ++
    [Ron.writeField "options" (Ron.writeEntries config.options.entries)])

def MountConfig.toRon (config : MountConfig) : Except RonWriteError String :=
  match config.configFile with
  | none => .ok (String.ofList (config.written none))
  | some path =>
    match Utf8.decode path with
    | .ok path => .ok (String.ofList (config.written (some path)))
    | .error _ => .error .pathNotText

def MountState.toRon (state : MountState) : String := state.name

end CephMount
