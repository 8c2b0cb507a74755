import CephMount.Ron.Contents
import CephMount.Ron.Number

/-! Values of any shape, which are checked and passed over.

Every bracket, element, key and entry, and the content of an option, is one level deep inside what
holds it, and only so many levels may be entered.
-/

set_option autoImplicit false

namespace CephMount.Ron

/-- What the head of a document turns on. -/
structure Extensions where
  /-- Options may be written without their constructor. -/
  implicitSome : Bool := false
  /-- The name of a struct has to be written. -/
  explicitStructNames : Bool := false
  /-- What an option holds may be written without parentheses of its own. -/
  unwrapContents : Bool := false
  deriving DecidableEq, Repr

/-- An option. What it holds is read by `content`, which is told whether parentheses are around. -/
def optional {α : Type} (extensions : Extensions) (content : (parenthesised : Bool) → Reader α) :
    Reader (Option α) := do
  if ← Reader.acceptWord ['N', 'o', 'n', 'e'] then return none
  if ← Reader.acceptWord ['S', 'o', 'm', 'e'] then
    blanks
    if ← Reader.accept ['('] then
      blanks
      let value ← content true
      let _ ← comma
      Reader.require [')'] .expectedOptionEnd
      return some value
  if extensions.implicitSome then return some (← content false)
  Reader.fail .expectedOption

/-- How the parts inside a value are read. -/
structure Inside where
  /-- What an option holds, in parentheses or not. -/
  content : (parenthesised : Bool) → Reader Unit
  /-- Going behind an opening bracket. -/
  enter : Reader Unit
  /-- The name of a field between brackets. -/
  name : Reader Unit
  /-- A value or key between brackets. -/
  element : Reader Unit

/-- A key, a colon and a value. -/
def keyed (key value : Reader Unit) : Reader Unit := do
  key
  blanks
  Reader.require [':'] .expectedColon
  blanks
  value

/-- Fields with names, up to the closing parenthesis. -/
def fields (inside : Inside) : Reader Unit := do
  inside.enter
  separated ')' (fun _ => keyed inside.name inside.element) ()

/-- Items, up to the closing parenthesis. -/
def items (inside : Inside) : Reader Unit := do
  inside.enter
  separated ')' (fun _ => inside.element) ()

/-- What stands in parentheses, if the text starts with one: a struct or a tuple. -/
def body (inside : Inside) : Reader Unit := do
  if ← Reader.accept ['('] then
    if ← namesFields then fields inside else items inside
    let _ ← Reader.next

def truthWords : List (List Char) := [['t', 'r', 'u', 'e'], ['f', 'a', 'l', 's', 'e']]

/-- A value that starts with neither a word nor a name. -/
def valueByFirst (inside : Inside) : Reader Unit := do
  match ← Reader.peek? with
  | none => Reader.fail .endOfText
  | some first =>
    if first = '(' then body inside
    else if first = '[' then
      let _ ← Reader.next
      inside.enter
      enclosed ']' (fun _ => inside.element) ()
    else if first = '\x7b' then
      let _ ← Reader.next
      inside.enter
      enclosed '\x7d' (fun _ => keyed inside.element inside.element) ()
    else if first.isDigit || first ∈ ['+', '-', '.'] then number
    else if first ∈ ['"', 'r'] then
      let _ ← string
      return ()
    else if first = 'b' then
      fun text => if ['b', '\''].isPrefixOf text then numberBy byteLiteral text else byteString text
    else if first = '\'' then character
    else Reader.fail (.unexpectedChar first)

def valueBy (extensions : Extensions) (inside : Inside) : Reader Unit := do
  if ← Reader.acceptAnyWord truthWords then return ()
  if Reader.startsWord ['S', 'o', 'm', 'e'] (← fun text => .ok (text, text)) then
    let _ ← optional extensions inside.content
    return ()
  if ← Reader.acceptWord ['N', 'o', 'n', 'e'] then return ()
  if ← Reader.accept ['(', ')'] then return ()
  if ← Reader.acceptAnyWord floatWords then return ()
  if ← passIdentifier then
    blanks
    body inside
  else valueByFirst inside

/-- A value, or what an option holds in parentheses. With the extension for it, that may be nothing,
fields or items as well, in the parentheses of the option. -/
def contentBy (extensions : Extensions) (parenthesised : Bool) (inside : Inside) : Reader Unit := do
  if !(extensions.unwrapContents && parenthesised) then valueBy extensions inside
  else if (← Reader.peek?) = some ')' then return ()
  else match ← Contents.ahead with
  | .fields => fields inside
  | .items => items inside
  | .value => valueBy extensions inside

def tooDeep : List Char → Except Fault (Unit × List Char) := Reader.fail .recursionLimit

/-- A value, or what an option holds in parentheses, with so many levels left to enter. -/
def content (extensions : Extensions) :
    Nat → (parenthesised : Bool) → List Char → Except Fault (Unit × List Char)
  | 0, parenthesised, text =>
    contentBy extensions parenthesised ⟨fun _ => tooDeep, tooDeep, tooDeep, tooDeep⟩ text
  | 1, parenthesised, text =>
    contentBy extensions parenthesised ⟨content extensions 0, pure (), tooDeep, tooDeep⟩ text
  | levels + 2, parenthesised, text =>
    contentBy extensions parenthesised
      ⟨content extensions (levels + 1), pure (), do let _ ← identifier,
        content extensions levels false⟩
      text

/-- A value with so many levels left to enter. -/
def anyValue (extensions : Extensions) (levels : Nat) : Reader Unit :=
  content extensions levels false

/-- The levels of a document. -/
def levelLimit : Nat := 128

end CephMount.Ron
