import CephMount.Ron.Reader
import CephMount.Text.Utf8

/-! Strings, byte strings, characters and byte literals.

Where a string ends is looked for before what stands in it: with no closing mark ahead, the fault is
that, at the opening mark or behind the last escape.
-/

set_option autoImplicit false

namespace CephMount.Ron

/-- What an escape may stand for: a character of a string, a character that has to come from one
escape alone, or a byte. -/
inductive EscapeUse where
  | text
  | character
  | byte
  deriving DecidableEq, Repr

def hexDigit : Reader Nat := do
  match Hex.value? (← Reader.next) with
  | some value => return value
  | none => Reader.fail (.escape .notHex)

def hexByte : Reader Nat := do
  let high ← hexDigit
  let low ← hexDigit
  return high * 16 + low

/-- The character that some bytes make up, if they make up one. -/
def characterOf? (bytes : Bytes) : Option Char :=
  match Utf8.pieces bytes with
  | [.character value] => some value
  | _ => none

/-- Further byte escapes, until the bytes make up a character. -/
def moreBytes : Nat → Bytes → Reader Char
  | 0, _ => Reader.fail (.escape .bytesNotCharacter)
  | more + 1, bytes => do
    Reader.require ['\\', 'x'] (.escape .bytesNotCharacter)
    let bytes := bytes ++ [.ofNat (← hexByte)]
    match characterOf? bytes with
    | some value => return value
    | none => moreBytes more bytes

def byteEscape (use : EscapeUse) : Reader Char := do
  let byte ← hexByte
  if byte < 0x80 || use = .byte then return Char.ofNat byte
  if use = .character then Reader.fail (.escape .bytesNotCharacter)
  moreBytes 3 [.ofNat byte]

/-- The digits of a number escape, at most six, up to the closing brace. -/
def numberDigits : Nat → Nat → Reader (Nat × Bool)
  | 0, number => return (number, true)
  | places + 1, number => do
    match ← Reader.peek? with
    | none => Reader.fail .endOfText
    | some '\x7d' => return (number, places + 1 < Quoted.numberPlaces)
    | some _ => numberDigits places (number * 16 + (← hexDigit))

def numberEscape : Reader Char := do
  Reader.require ['\x7b'] (.escape .openingMissing)
  let (number, someDigit) ← numberDigits Quoted.numberPlaces 0
  if !someDigit then Reader.fail (.escape .noDigits)
  Reader.require ['\x7d'] (.escape .closingMissing)
  if number.isValidChar then return Char.ofNat number
  Reader.fail (.escape .numberNotCharacter)

/-- An escape, behind its backslash. -/
def escape (use : EscapeUse) : Reader Char := do
  match ← Reader.next with
  | '\'' => return '\''
  | '"' => return '"'
  | '\\' => return '\\'
  | 'n' => return '\n'
  | 'r' => return '\r'
  | 't' => return '\t'
  | '0' => return '\x00'
  | 'x' => byteEscape use
  | 'u' => numberEscape
  | _ => Reader.fail (.escape .unknown)

/-- The rest of a string, behind its opening mark. Each escape takes some text, so the text bounds
their number. -/
def stringRest (use : EscapeUse) : Nat → Reader (List Char)
  | 0 => Reader.fail .expectedStringEnd
  | bound + 1 => fun text =>
    match text.dropWhile (· != '"') with
    | [] => .error ⟨.expectedStringEnd, text⟩
    | _ :: behind =>
      let body := text.takeWhile (· != '"')
      let plain := body.takeWhile (· != '\\')
      if plain.length = body.length then .ok (body, behind)
      else
        (do
          let value ← escape use
          let rest ← stringRest use bound
          return plain ++ value :: rest : Reader (List Char)) (text.drop (plain.length + 1))

def escapedString (use : EscapeUse) : Reader (List Char) :=
  fun text => stringRest use (text.length + 1) text

/-- Split a text at the first place where another stands in it. -/
def splitBefore? (ending : List Char) : List Char → Option (List Char × List Char)
  | [] => if ending.isEmpty then some ([], []) else none
  | first :: rest =>
    if ending.isPrefixOf (first :: rest) then some ([], (first :: rest).drop ending.length)
    else (splitBefore? ending rest).map fun found => (first :: found.1, found.2)

/-- A raw string, behind its mark: it ends at a quotation mark with as many hashes as it began with,
and `missing` is the fault of not beginning. -/
def rawString (missing : Cause) : Reader (List Char) := fun text =>
  let hashes := text.takeWhile (· == '#')
  match text.dropWhile (· == '#') with
  | '"' :: rest =>
    match splitBefore? ('"' :: hashes) rest with
    | some found => .ok found
    | none => .error ⟨.expectedStringEnd, rest⟩
  | rest => .error ⟨missing, rest⟩

def string : Reader String := do
  if ← Reader.accept ['"'] then return String.ofList (← escapedString .text)
  if ← Reader.accept ['r'] then return String.ofList (← rawString .expectedString)
  Reader.fail .expectedString

def byteString : Reader Unit := do
  if ← Reader.accept ['b', '"'] then
    let _ ← escapedString .byte
    return ()
  if ← Reader.accept ['b', 'r'] then
    let _ ← rawString .expectedByteString
    return ()
  Reader.fail .expectedByteString

def character : Reader Unit := do
  Reader.require ['\''] .expectedChar
  if (← Reader.next) = '\\' then
    let _ ← escape .character
  Reader.require ['\''] .expectedChar

/-- A byte between single marks: a character of ASCII, or an escape other than by number. -/
def byteLiteral : Reader Unit := do
  Reader.require ['b', '\''] .expectedByteLiteral
  let first ← Reader.next
  if first = '\\' then
    let byNumber := (← Reader.peek?) = some 'u'
    let _ ← escape .byte
    if byNumber then Reader.fail (.escape .characterInByte)
  else if 0x80 ≤ first.toNat then Reader.fail .expectedByteLiteral
  Reader.require ['\''] .expectedByteLiteral

end CephMount.Ron
