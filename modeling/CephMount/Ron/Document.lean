import CephMount.Ron.AnyValue

/-! Whole documents: heads that turn extensions on, one value, and nothing behind it. -/

set_option autoImplicit false

namespace CephMount.Ron

/-- Try tokens one after the other, each with blanks behind it, and tell whether none is missing. A
missing token does not keep the later ones from being taken. -/
def acceptAll (present : Bool) : List (List Char) → Reader Bool
  | [] => return present
  | token :: more => do
    let found ← Reader.accept token
    if found then blanks
    acceptAll (present && found) more

def requireAll (tokens : List (List Char)) (cause : Cause) : Reader Unit := do
  if !(← acceptAll true tokens) then Reader.fail cause

def headTokens : List (List Char) := [['#'], ['!'], ['['], ['e', 'n', 'a', 'b', 'l', 'e'], ['(']]

/-- Turn an extension on by its name. -/
def Extensions.enable? (extensions : Extensions) (name : List Char) : Option Extensions :=
  match String.ofList name with
  | "unwrap_newtypes" => some extensions
  | "unwrap_variant_newtypes" => some { extensions with unwrapContents := true }
  | "implicit_some" => some { extensions with implicitSome := true }
  | "explicit_struct_names" => some { extensions with explicitStructNames := true }
  | _ => none

/-- The names in a head. Each takes some text, so the text bounds their number. -/
def extensionNames : Nat → Extensions → Reader Extensions
  | 0, _ => Reader.fail .endOfText
  | bound + 1, extensions => do
    let name ← identifier
    match extensions.enable? name with
    | none => Reader.fail (.unknownExtension name)
    | some extensions =>
      let afterComma ← comma
      let more := (← Reader.peek?).any Unicode.isIdentifierContinue
      if !afterComma && more then Reader.fail .expectedComma
      if more then extensionNames bound extensions else return extensions

/-- Heads, each with blanks behind it. Each takes some text, so the text bounds their number. -/
def heads : Nat → Extensions → Reader Extensions
  | 0, _ => Reader.fail .endOfText
  | bound + 1, extensions => do
    if (← Reader.peek?) = some '#' then
      requireAll headTokens .expectedAttribute
      blanks
      let extensions ← fun text => extensionNames (text.length + 1) extensions text
      blanks
      requireAll [[')'], [']']] .expectedAttributeEnd
      blanks
      heads bound extensions
    else return extensions

/-- A document that holds one value. -/
def document {α : Type} (value : Extensions → Reader α) : Reader α := do
  blanks
  let extensions ← fun text => heads (text.length + 1) {} text
  let found ← value extensions
  blanks
  if (← Reader.peek?).isSome then Reader.fail .trailingCharacters
  return found

/-- Read a whole text. -/
def read {α : Type} (value : Extensions → Reader α) (text : String) : Except LocatedFault α :=
  match document value text.toList with
  | .ok (found, _) => .ok found
  | .error fault => .error (fault.locate text.toList)

end CephMount.Ron
