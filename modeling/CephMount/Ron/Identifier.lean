import CephMount.Ron.Reader

/-! Identifiers. A plain one is an underscore or a starting character and what may follow it; a raw
one stands behind a mark and may hold dots and signs as well. A plain identifier that a dot or sign
would lengthen is refused, and no fault of this module takes any text.
-/

set_option autoImplicit false

namespace CephMount.Ron

/-- How strings, byte strings and byte literals begin where an identifier could stand. -/
def literalStarts : List (List Char) :=
  [['b', '"'], ['b', '\''], ['b', 'r', '#'], ['b', 'r', '"'], ['r', '"'], ['r', '#', '"'],
    ['r', '#', '#']]

def startsLiteral (text : List Char) : Bool := literalStarts.any (·.isPrefixOf text)

/-- A run of raw characters behind the mark of a raw identifier, if the text starts with one. -/
def rawName? : List Char → Option (List Char × List Char)
  | 'r' :: '#' :: rest =>
    if (rest.takeWhile isRaw).isEmpty then none
    else some (rest.takeWhile isRaw, rest.dropWhile isRaw)
  | _ => none

def identifier : Reader (List Char) := fun text =>
  match text with
  | [] => .error ⟨.endOfText, []⟩
  | first :: _ =>
    if !isFirst first then
      if isRaw first then .error ⟨.rawIdentifier (text.takeWhile isRaw), text⟩
      else .error ⟨.expectedIdentifier, text⟩
    else if startsLiteral text then .error ⟨.expectedIdentifier, text⟩
    else if ['r', '#'].isPrefixOf text then
      match rawName? text with
      | some found => .ok found
      | none => .error ⟨.expectedIdentifier, text⟩
    else
      let plain := text.takeWhile Unicode.isIdentifierContinue
      let run := text.takeWhile isRaw
      if plain.length < run.length then .error ⟨.rawIdentifier run, text⟩
      else .ok (plain, text.dropWhile Unicode.isIdentifierContinue)

/-- Pass over what looks like an identifier, whether or not a raw character lengthens it. -/
def passIdentifier : Reader Bool := fun text =>
  match text with
  | [] => .ok (false, [])
  | first :: _ =>
    if startsLiteral text then .ok (false, text)
    else if ['r', '#'].isPrefixOf text then
      match rawName? text with
      | some (_, rest) => .ok (true, rest)
      | none => .ok (false, text)
    else if isFirst first then .ok (true, text.dropWhile Unicode.isIdentifierContinue)
    else .ok (false, text)

end CephMount.Ron
