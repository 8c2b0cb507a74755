import CephMount.Ron.Reader
import CephMount.Text.Hex

/-! Numbers, which are checked and passed over.

A number is first taken for an integer or for a float by the characters that it starts with. An
integer that is too great for its type, or holds a digit that its base lacks, may still be a float
that reaches as far.
-/

set_option autoImplicit false

namespace CephMount.Ron

/-- The type that bounds an integer. -/
structure IntegerType where
  signed : Bool
  bits : Nat
  deriving DecidableEq, Repr

def IntegerType.holds (type : IntegerType) (value : Int) : Bool :=
  if type.signed then -Int.pow 2 (type.bits - 1) ≤ value && value < Int.pow 2 (type.bits - 1)
  else 0 ≤ value && value < Int.pow 2 type.bits

def integerTypes : List (List Char × IntegerType) :=
  [(['i', '8'], ⟨true, 8⟩), (['i', '1', '6'], ⟨true, 16⟩), (['i', '3', '2'], ⟨true, 32⟩),
    (['i', '6', '4'], ⟨true, 64⟩), (['u', '8'], ⟨false, 8⟩), (['u', '1', '6'], ⟨false, 16⟩),
    (['u', '3', '2'], ⟨false, 32⟩), (['u', '6', '4'], ⟨false, 64⟩)]

def isIntegerChar (value : Char) : Bool := value == '_' || (Hex.value? value).isSome

def isFloatChar (value : Char) : Bool :=
  value.isDigit || value ∈ ['e', 'E', '.', '+', '-', '_']

/-- How an integer's digits end: well, beyond the bounds of its type, or at a digit too great for
the base, with the text from that digit on. -/
inductive Digits where
  | done
  | outOfBounds
  | invalid (digit : Char) (rest : List Char)
  deriving DecidableEq, Repr

/-- Read digits up to the end of the run. The digits of a negative number are subtracted, so that
the least number of a type is in bounds and a type without sign holds none. -/
def Digits.read (type : IntegerType) (base : Nat) (negative : Bool) : Int → List Char → Digits
  | _, [] => .done
  | value, first :: rest =>
    if first = '_' then read type base negative value rest
    else match Hex.value? first with
    | none => .done
    | some digit =>
      let scaled := value * base
      if !type.holds scaled then .outOfBounds
      else if base ≤ digit then .invalid first (first :: rest)
      else
        let next := if negative then scaled - digit else scaled + digit
        if type.holds next then read type base negative next rest else .outOfBounds

/-- A sign, if there is one, and whether it is a minus. -/
def sign : Reader Bool := do
  if ← Reader.accept ['+'] then return false
  Reader.accept ['-']

/-- The base that the first characters of an integer announce. -/
def base : Reader Nat := do
  if ← Reader.accept ['0', 'x'] then return 16
  if ← Reader.accept ['0', 'b'] then return 2
  if ← Reader.accept ['0', 'o'] then return 8
  return 10

/-- The digits of an integer, behind the mark of their base. A number beyond the bounds of its type
is refused behind its digits. -/
def integerDigits (type : IntegerType) (negative : Bool) : Reader Unit := do
  let base ← base
  fun text =>
    let behind := text.dropWhile isIntegerChar
    if behind.length = text.length then .error ⟨.expectedInteger, text⟩
    else if text.head? = some '_' then .error ⟨.leadingUnderscore, text⟩
    else match Digits.read type base negative 0 text with
    | .done => .ok ((), behind)
    | .outOfBounds => .error ⟨.integerOutOfBounds, behind⟩
    | .invalid digit rest => .error ⟨.invalidDigit digit base, rest⟩

/-- The type behind a run of digits and underscores, with its word. Of the marks of the bases only
the binary one is such a run, so octal and hexadecimal integers have no type. -/
def integerSuffix? (text : List Char) : Option (List Char × IntegerType) :=
  integerTypes.find? fun type => Reader.startsWord type.1 (text.dropWhile isIntegerChar)

/-- An integer. Its type bounds it, or else the widest type of its sign; the word for the type is
passed over even when there are no digits or too many. -/
def integer : Reader Unit := do
  let negative ← sign
  fun text =>
    match integerSuffix? text with
    | none => integerDigits ⟨negative, 64⟩ negative text
    | some (suffix, type) =>
      match integerDigits type negative text with
      | .ok ((), rest) => .ok ((), rest.drop suffix.length)
      | .error fault =>
        if fault.cause = .integerOutOfBounds ∨ fault.cause = .expectedInteger then
          .error { fault with rest := fault.rest.drop suffix.length }
        else .error fault

/-- The first underscore that stands behind neither a digit nor an exponent mark, with the text from
there on. A sign leaves open what stood before it. -/
def misplacedUnderscore? : Bool → List Char → Option (List Char)
  | _, [] => none
  | allowed, first :: rest =>
    if first = '_' then
      if allowed then misplacedUnderscore? true rest else some (first :: rest)
    else if first.isDigit || first == 'e' || first == 'E' then misplacedUnderscore? true rest
    else if first = '.' then misplacedUnderscore? false rest
    else misplacedUnderscore? allowed rest

/-- An optional sign in front of text. -/
def unsigned : List Char → List Char
  | '+' :: rest | '-' :: rest => rest
  | text => text

/-- An exponent, or nothing. -/
def isExponent : List Char → Bool
  | [] => true
  | first :: rest =>
    (first == 'e' || first == 'E') && !(unsigned rest).isEmpty && (unsigned rest).all Char.isDigit

/-- Digits with a point among, before or behind them, and perhaps an exponent. -/
def isFloat (text : List Char) : Bool :=
  let whole := (unsigned text).takeWhile Char.isDigit
  match (unsigned text).dropWhile Char.isDigit with
  | '.' :: rest =>
    let fraction := rest.takeWhile Char.isDigit
    (!whole.isEmpty || !fraction.isEmpty) && isExponent (rest.dropWhile Char.isDigit)
  | rest => !whole.isEmpty && isExponent rest

def floatTypes : List (List Char) := [['f', '3', '2'], ['f', '6', '4']]

/-- The words for numbers that are not finite, alone and with a type. -/
def floatWords : List (List Char) :=
  [['i', 'n', 'f'], ['N', 'a', 'N']].flatMap fun word => word :: floatTypes.map (word ++ ·)

def float : Reader Unit := fun text =>
  match floatWords.find? fun word => Reader.startsWord word (unsigned text) with
  | some word => .ok ((), (unsigned text).drop word.length)
  | none =>
    let run := text.takeWhile isFloatChar
    let behind := text.dropWhile isFloatChar
    if run.isEmpty then .error ⟨.expectedFloat, text⟩
    else if run.head? = some '_' then .error ⟨.leadingUnderscore, text⟩
    else match misplacedUnderscore? false run with
    | some rest => .error ⟨.underscoreInFloat, text.drop (run.length - rest.length)⟩
    | none =>
      if !isFloat (run.filter (· != '_')) then .error ⟨.expectedFloat, text⟩
      else match floatTypes.find? fun type => Reader.startsWord type behind with
      | some type => .ok ((), behind.drop type.length)
      | none => .ok ((), behind)

/-- Whether a number has more characters of a float than of an integer. -/
def startsFloat (text : List Char) : Bool :=
  ((unsigned text).takeWhile isIntegerChar).length < ((unsigned text).takeWhile isFloatChar).length

/-- An integer or a byte literal by `whole`, or a float. -/
def numberBy (whole : Reader Unit) : Reader Unit := fun text =>
  if startsFloat text then float text
  else match whole text with
  | .ok found => .ok found
  | .error fault =>
    match float text with
    | .ok ((), rest) => if rest.length ≤ fault.rest.length then .ok ((), rest) else .error fault
    | .error _ => .error fault

def number : Reader Unit := numberBy integer

end CephMount.Ron
