import CephMount.Ron.Identifier
import CephMount.Ron.Literal

/-! What stands in parentheses: fields with names, items, or one value.

These are told apart by looking ahead, as far as the first comma if need be. What has been looked at
is read again afterwards, but a fault that is met in looking ahead stands.
-/

set_option autoImplicit false

namespace CephMount.Ron

inductive Contents where
  | fields
  | items
  | value
  deriving DecidableEq, Repr

/-- What a comma tells that has just been passed: it separates two items or ends a single value. -/
def Contents.behindComma : Reader Contents := do
  blanks
  return if (← Reader.peek?) = some ')' then .value else .items

/-- What a name tells that the contents begin with. -/
def Contents.byName? : Reader (Option Contents) := do
  blanks
  if !(← passIdentifier) then return none
  blanks
  match ← Reader.peek? with
  | some ':' => return some .fields
  | some ',' =>
    let _ ← Reader.next
    return some (← behindComma)
  | some ')' => return some .value
  | _ => return none

/-- What the first comma outside of all brackets tells, or the bracket that ends the contents. All
kinds of brackets count alike, and `around` of them are open. A string or character is passed over
whole, if it is well formed. Each step takes some text, so the text bounds their number. -/
def Contents.byComma : (bound around : Nat) → Reader Contents
  | 0, _ => Reader.fail .endOfText
  | bound + 1, around => do
    blanks
    Reader.passUnless [] character
    Reader.passUnless [.expectedStringEnd, .endOfText] (do let _ ← string)
    Reader.passUnless [.expectedStringEnd, .endOfText] byteString
    let first ← Reader.next
    if first ∈ ['(', '[', '\x7b'] then byComma bound (around + 1)
    else if first ∈ [')', ']', '\x7d'] then
      match around with
      | 0 => return .value
      | around + 1 => byComma bound around
    else if first = ',' && around = 0 then behindComma
    else byComma bound around

/-- The contents behind an opening parenthesis. -/
def Contents.ahead : Reader Contents := Reader.lookAhead do
  match ← byName? with
  | some contents => return contents
  | none => fun text => byComma (text.length + 1) 0 text

/-- Whether fields with names stand behind an opening parenthesis. -/
def namesFields : Reader Bool := Reader.lookAhead do
  return (← Contents.byName?) = some .fields

end CephMount.Ron
