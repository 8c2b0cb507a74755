import CephMount.MountConfig
import CephMount.MountState
import CephMount.Ron.Document

/-! Configurations and states read from RON text.

A known field may be given once, an unknown one is passed over, and a missing one has its default. Of
equal option names the last one counts.
-/

set_option autoImplicit false

namespace CephMount.Ron

def bool : Reader Bool := do
  if ← Reader.acceptWord ['t', 'r', 'u', 'e'] then return true
  if ← Reader.acceptWord ['f', 'a', 'l', 's', 'e'] then return false
  Reader.fail .expectedBoolean

/-- The colon between a name and its value. -/
def colon : Reader Unit := do
  blanks
  Reader.require [':'] .expectedColon
  blanks

def stringEntry (entries : Table String String) : Reader (Table String String) := do
  let key ← string
  colon
  return entries.insert key (← string)

def stringMap : Reader (Table String String) := do
  Reader.require ['\x7b'] .expectedMap
  enclosed '\x7d' stringEntry .empty

/-- The fields of a configuration that have been met. -/
structure ConfigFields where
  clientId : Option (Option String) := none
  configFile : Option (Option String) := none
  readConfig : Option Bool := none
  parseEnv : Option (Option String) := none
  options : Option (Table String String) := none
  deriving DecidableEq, Repr

def configName : String := "MountConfig"

/-- A known field may not have been met before. -/
def unmet {α : Type} (name : String) (field : Option α) : Reader Unit :=
  if field.isSome then Reader.fail (.duplicateField name configName) else pure ()

def configField (extensions : Extensions) (fields : ConfigFields) : Reader ConfigFields := do
  match String.ofList (← identifier) with
  | "client_id" =>
    unmet "client_id" fields.clientId
    colon
    return { fields with clientId := some (← optional extensions fun _ => string) }
  | "config_file" =>
    unmet "config_file" fields.configFile
    colon
    return { fields with configFile := some (← optional extensions fun _ => string) }
  | "read_config" =>
    unmet "read_config" fields.readConfig
    colon
    return { fields with readConfig := some (← bool) }
  | "parse_env" =>
    unmet "parse_env" fields.parseEnv
    colon
    return { fields with parseEnv := some (← optional extensions fun _ => string) }
  | "options" =>
    unmet "options" fields.options
    colon
    return { fields with options := some (← stringMap) }
  | _ =>
    colon
    -- The struct and the value of its field are the first two levels.
    anyValue extensions (levelLimit - 2)
    return fields

def ConfigFields.config (fields : ConfigFields) : MountConfig where
  clientId := fields.clientId.getD none
  configFile := (fields.configFile.getD none).map Utf8.encode
  readConfig := fields.readConfig.getD true
  parseEnv := fields.parseEnv.getD none
  options := fields.options.getD .empty

/-- The name of a struct, which may be missing unless an extension asks for it. -/
def structName (extensions : Extensions) (name : String) : Reader Unit := fun text =>
  if text.head?.any Unicode.isIdentifierContinue then
    match identifier text with
    | .ok (found, rest) =>
      if String.ofList found = name then .ok ((), rest)
      else .error ⟨.differentStruct name found, rest⟩
    | .error _ => .error ⟨.expectedStruct name, text⟩
  else if extensions.explicitStructNames then .error ⟨.expectedStructName name, text⟩
  else .ok ((), text)

def mountConfig (extensions : Extensions) : Reader MountConfig := do
  structName extensions configName
  blanks
  Reader.require ['('] (.expectedStruct configName)
  return (← enclosed ')' (configField extensions) {}).config

def mountState : Reader MountState := do
  blanks
  let found ← identifier
  match MountState.all.find? fun state => state.name = String.ofList found with
  | some state => return state
  | none =>
    Reader.fail (.unknownVariant "MountState" found (MountState.all.map MountState.name))

end CephMount.Ron

namespace CephMount

def MountConfig.ofRon (text : String) : Except Ron.LocatedFault MountConfig :=
  Ron.read Ron.mountConfig text

def MountState.ofRon (text : String) : Except Ron.LocatedFault MountState :=
  Ron.read (fun _ => Ron.mountState) text

end CephMount
