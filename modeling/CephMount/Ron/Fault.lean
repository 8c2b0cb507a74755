import CephMount.Text.Quoted
import CephMount.Unicode.IdentifierContinue
import CephMount.Unicode.IdentifierStart

/-! What can be wrong with RON text, where it is wrong, and how that is said.

A fault is known by its cause and by the text that was still to be read when it arose. Lines and
columns are counted once, from what had been read; a column counts characters.
-/

set_option autoImplicit false

namespace CephMount.Ron

/-- The ways in which an escape after a backslash can be wrong. -/
inductive EscapeFault where
  | unknown
  | notHex
  | bytesNotCharacter
  | openingMissing
  | noDigits
  | closingMissing
  | numberNotCharacter
  | characterInByte
  deriving DecidableEq, Repr

def EscapeFault.message : EscapeFault → String
  | .unknown => "Unknown escape character"
  | .notHex => "Non-hex digit found"
  | .bytesNotCharacter => "Not a valid byte-escaped Unicode character"
  | .openingMissing => "Missing \x7b in Unicode escape"
  | .noDigits => "Expected 1-6 digits, got 0 digits in Unicode escape"
  | .closingMissing => "No \x7d at the end of Unicode escape"
  | .numberNotCharacter => "Not a valid Unicode-escaped character"
  | .characterInByte => "Unexpected Unicode escape in byte literal"

inductive Cause where
  | endOfText
  | unclosedComment
  | unexpectedChar (found : Char)
  | trailingCharacters
  | expectedAttribute
  | expectedAttributeEnd
  | unknownExtension (name : List Char)
  | expectedComma
  | expectedColon
  | expectedIdentifier
  | rawIdentifier (run : List Char)
  | expectedStruct (name : String)
  | differentStruct (expected : String) (found : List Char)
  | expectedStructName (name : String)
  | duplicateField (field struct : String)
  | unknownVariant (enumeration : String) (found : List Char) (expected : List String)
  | expectedBoolean
  | expectedOption
  | expectedOptionEnd
  | expectedMap
  | expectedString
  | expectedStringEnd
  | expectedByteString
  | expectedChar
  | expectedByteLiteral
  | escape (fault : EscapeFault)
  | expectedInteger
  | integerOutOfBounds
  | invalidDigit (digit : Char) (base : Nat)
  | expectedFloat
  | leadingUnderscore
  | underscoreInFloat
  | recursionLimit
  deriving DecidableEq, Repr

/-- A plain identifier starts with an underscore or an identifier's first character. -/
def isFirst (value : Char) : Bool := value == '_' || Unicode.isIdentifierStart value

/-- The characters that only a raw identifier may hold besides those of plain ones. -/
def isRaw (value : Char) : Bool :=
  value == '.' || value == '+' || value == '-' || Unicode.isIdentifierContinue value

def isPlainName : List Char → Bool
  | [] => false
  | first :: rest => isFirst first && rest.all Unicode.isIdentifierContinue

/-- A name as it is shown: one that is no plain identifier is marked as raw. -/
def shownName (name : List Char) : String :=
  if isPlainName name then "`" ++ String.ofList name ++ "`"
  else "`r#" ++ String.ofList name ++ "`"

/-- Alternatives in prose: "a", "b", or "c". -/
def alternatives : List String → String
  | [] => ""
  | [name] => "or " ++ shownName name.toList
  | name :: rest => shownName name.toList ++ ", " ++ alternatives rest

def Cause.message : Cause → String
  | .endOfText => "Unexpected end of RON"
  | .unclosedComment => "Unclosed block comment"
  | .unexpectedChar found => "Unexpected char " ++ Quoted.character found
  | .trailingCharacters => "Non-whitespace trailing characters"
  | .expectedAttribute => "Expected an `#![enable(...)]` attribute"
  | .expectedAttributeEnd => "Expected closing `)]` after the enable attribute"
  | .unknownExtension name => "No RON extension named " ++ shownName name
  | .expectedComma => "Expected comma"
  | .expectedColon => "Expected colon"
  | .expectedIdentifier => "Expected identifier"
  | .rawIdentifier run =>
      "Found invalid std identifier " ++ Quoted.text (String.ofList run) ++
        ", try the raw identifier `r#" ++ String.ofList run ++ "` instead"
  | .expectedStruct name => "Expected opening `(` for struct " ++ shownName name.toList
  | .differentStruct expected found =>
      "Expected struct " ++ shownName expected.toList ++ " but found " ++ shownName found
  | .expectedStructName name =>
      "Expected the explicit struct name " ++ shownName name.toList ++ ", but none was found"
  | .duplicateField field struct =>
      "Unexpected duplicate field named " ++ shownName field.toList ++ " in " ++
        shownName struct.toList
  | .unknownVariant enumeration found expected =>
      "Unexpected variant named " ++ shownName found ++ " in enum " ++
        shownName enumeration.toList ++ ", expected one of " ++ alternatives expected ++ " instead"
  | .expectedBoolean => "Expected boolean"
  | .expectedOption => "Expected option"
  | .expectedOptionEnd => "Expected closing `)`"
  | .expectedMap => "Expected opening `\x7b`"
  | .expectedString => "Expected string"
  | .expectedStringEnd => "Expected end of string"
  | .expectedByteString => "Expected byte string"
  | .expectedChar => "Expected char"
  | .expectedByteLiteral => "Expected byte literal"
  | .escape fault => fault.message
  | .expectedInteger => "Expected integer"
  | .integerOutOfBounds => "Integer is out of bounds"
  | .invalidDigit digit base =>
      "Invalid digit " ++ Quoted.character digit ++ " for base " ++ toString base ++ " integers"
  | .expectedFloat => "Expected float"
  | .leadingUnderscore => "Unexpected leading underscore in a number"
  | .underscoreInFloat => "Unexpected underscore in float"
  | .recursionLimit =>
      "Exceeded recursion limit, try increasing `ron::Options::recursion_limit` and using " ++
        "`serde_stacker` to protect against a stack overflow"

/-- A cause, with the text that was still to be read when it arose. -/
structure Fault where
  cause : Cause
  rest : List Char
  deriving DecidableEq, Repr

/-- A place in a text, both counted from one. -/
structure Position where
  line : Nat
  column : Nat
  deriving DecidableEq, Repr

/-- The place after some text: newlines count lines, and characters since the last one columns. -/
def Position.after (read : List Char) : Position :=
  ⟨1 + read.count '\n', 1 + (read.reverse.takeWhile (· != '\n')).length⟩

/-- A cause and its place. -/
structure LocatedFault where
  cause : Cause
  position : Position
  deriving DecidableEq, Repr

def LocatedFault.message (fault : LocatedFault) : String :=
  toString fault.position.line ++ ":" ++ toString fault.position.column ++ ": " ++
    fault.cause.message

/-- Find the place of a fault in the whole text. -/
def Fault.locate (fault : Fault) (text : List Char) : LocatedFault :=
  ⟨fault.cause, Position.after (text.take (text.length - fault.rest.length))⟩

end CephMount.Ron
