import CephMount.Text.Hex
import CephMount.Unicode.GraphemeExtend
import CephMount.Unicode.Printable

/-! Text between quotation marks, with what cannot be seen written as an escape.

A character that attaches to the one before it, or has no shape of its own, is written by its number.
The places where quoted text is used differ only in the marks that they hide.
-/

set_option autoImplicit false

namespace CephMount.Quoted

/-- No character has a number of more than six hexadecimal digits. -/
def numberPlaces : Nat := 6

def byNumber (value : Char) : List Char :=
  ['\\', 'u', '\x7b'] ++ Hex.digits numberPlaces value.toNat ++ ['\x7d']

/-- The half-width voiced sound marks attach to the character before them and yet show alone. -/
def isSoundMark (value : Char) : Bool := value.toNat ∈ [0xFF9E, 0xFF9F]

/-- The fillers of Hangul count as letters and yet show nothing. -/
def isFiller (value : Char) : Bool := value.toNat ∈ [0x115F, 0x1160, 0x3164, 0xFFA0]

/-- The character cannot be seen between others. -/
def isHidden (value : Char) : Bool :=
  (Unicode.isGraphemeExtend value && !isSoundMark value) || isFiller value ||
    !Unicode.isPrintable value

/-- Write one character, hiding the backslash and the given quotation marks. -/
def escape (marks : List Char) (value : Char) : List Char :=
  if value = '\x00' then ['\\', '0']
  else if value = '\t' then ['\\', 't']
  else if value = '\r' then ['\\', 'r']
  else if value = '\n' then ['\\', 'n']
  else if value = '\\' ∨ value ∈ marks then ['\\', value]
  else if isHidden value then byNumber value
  else [value]

/-- A text as it is shown in a message: only the double mark is hidden. -/
def text (value : String) : String :=
  String.ofList (['"'] ++ value.toList.flatMap (escape ['"']) ++ ['"'])

/-- A character as it is shown in a message: only the single mark is hidden. -/
def character (value : Char) : String :=
  String.ofList (['\''] ++ escape ['\''] value ++ ['\''])

def optionalText : Option String → String
  | some value => "Some(" ++ text value ++ ")"
  | none => "None"

end CephMount.Quoted
