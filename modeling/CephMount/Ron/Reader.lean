import CephMount.Ron.Fault

/-! Readers of RON text, and what stands between its tokens.

A reader takes the text still to be read and gives a value with the text behind it, or a fault. A
token that is wanted and missing leaves the text as it is. Blanks are white space and comments.
-/

set_option autoImplicit false

namespace CephMount.Ron

def Reader (α : Type) : Type := List Char → Except Fault (α × List Char)

namespace Reader

variable {α β : Type}

def fail (cause : Cause) : Reader α := fun text => .error ⟨cause, text⟩

instance : Monad Reader where
  pure value := fun text => .ok (value, text)
  bind first next := fun text =>
    match first text with
    | .ok (value, rest) => next value rest
    | .error fault => .error fault

theorem pure_apply (value : α) (text : List Char) :
    (pure value : Reader α) text = .ok (value, text) := rfl

theorem bind_ok {first : Reader α} {next : α → Reader β} {text rest : List Char} {value : α}
    (read : first text = .ok (value, rest)) : (first >>= next) text = next value rest := by
  simp only [bind, read]

theorem bind_error {first : Reader α} {next : α → Reader β} {text : List Char} {fault : Fault}
    (failed : first text = .error fault) : (first >>= next) text = .error fault := by
  simp only [bind, failed]

/-- The next character, which stays in the text. -/
def peek? : Reader (Option Char) := fun text => .ok (text.head?, text)

/-- The next character, which is taken from the text. -/
def next : Reader Char := fun text =>
  match text with
  | [] => .error ⟨.endOfText, []⟩
  | first :: rest => .ok (first, rest)

/-- The longest run of such characters. -/
def run (accept : Char → Bool) : Reader (List Char) := fun text =>
  .ok (text.takeWhile accept, text.dropWhile accept)

/-- Take a token, if it is there. -/
def accept (token : List Char) : Reader Bool := fun text =>
  if token.isPrefixOf text then .ok (true, text.drop token.length) else .ok (false, text)

/-- Take a token that has to be there. -/
def require (token : List Char) (cause : Cause) : Reader Unit := fun text =>
  if token.isPrefixOf text then .ok ((), text.drop token.length) else .error ⟨cause, text⟩

theorem accept_cons (first : Char) (rest : List Char) :
    accept [first] (first :: rest) = .ok (true, rest) := by
  simp [accept]

theorem require_cons (first : Char) (cause : Cause) (rest : List Char) :
    require [first] cause (first :: rest) = .ok ((), rest) := by
  simp [require]

/-- A word is a token that no identifier character follows. -/
def startsWord (word text : List Char) : Bool :=
  word.isPrefixOf text && !((text.drop word.length).head?.any Unicode.isIdentifierContinue)

/-- Take a word, if it is there. -/
def acceptWord (word : List Char) : Reader Bool := fun text =>
  if startsWord word text then .ok (true, text.drop word.length) else .ok (false, text)

/-- Take the first of some words that is there. -/
def acceptAnyWord : List (List Char) → Reader Bool
  | [] => pure false
  | word :: rest => do
    if ← acceptWord word then return true
    acceptAnyWord rest

/-- Look ahead: what is read stays in the text. -/
def lookAhead (reader : Reader α) : Reader α := fun text =>
  (reader text).map fun found => (found.1, text)

/-- Pass over what can be read. Where reading fails nothing is passed, unless the cause is fatal. -/
def passUnless (fatal : List Cause) (reader : Reader Unit) : Reader Unit := fun text =>
  match reader text with
  | .ok found => .ok found
  | .error fault => if fault.cause ∈ fatal then .error fault else .ok ((), text)

end Reader

def isBlank (value : Char) : Bool :=
  value.toNat ∈ [0x20, 0x09, 0x0A, 0x0D, 0x0B, 0x0C, 0x85, 0x200E, 0x200F, 0x2028, 0x2029]

/-- Where a reader of blanks stands: between tokens, in a comment that a newline ends, or inside a
block comment with so many more around it. -/
inductive Between where
  | tokens
  | line
  | block (around : Nat)
  deriving DecidableEq, Repr

/-- Pass over white space and comments. Block comments nest. -/
def passBlanks : Between → List Char → Except Fault (List Char)
  | .tokens, '/' :: '/' :: rest => passBlanks .line rest
  | .tokens, '/' :: '*' :: rest => passBlanks (.block 0) rest
  | .tokens, '/' :: other :: rest => .error ⟨.unexpectedChar other, rest⟩
  | .tokens, ['/'] => .error ⟨.endOfText, []⟩
  | .tokens, first :: rest => if isBlank first then passBlanks .tokens rest else .ok (first :: rest)
  | .tokens, [] => .ok []
  | .line, first :: rest => passBlanks (if first = '\n' then .tokens else .line) rest
  | .line, [] => .ok []
  | .block around, '/' :: '*' :: rest => passBlanks (.block (around + 1)) rest
  | .block 0, '*' :: '/' :: rest => passBlanks .tokens rest
  | .block (around + 1), '*' :: '/' :: rest => passBlanks (.block around) rest
  | .block around, _ :: rest => passBlanks (.block around) rest
  | .block _, [] => .error ⟨.unclosedComment, []⟩

def blanks : Reader Unit := fun text => (passBlanks .tokens text).map ((), ·)

/-- Blanks, and a comma with blanks behind it, if there is one. -/
def comma : Reader Bool := do
  blanks
  if ← Reader.accept [','] then
    blanks
    return true
  return false

/-- Items with commas between them and perhaps behind the last one. The closing character stays in
the text. Each item takes some text, so the text bounds their number. -/
def separatedBy {α : Type} (closing : Char) (item : α → Reader α) : Nat → Bool → α → Reader α
  | 0, _, _ => Reader.fail .endOfText
  | bound + 1, afterComma, state => do
    blanks
    if (← Reader.peek?) = some closing then return state
    if !afterComma then Reader.fail .expectedComma
    let state ← item state
    let afterComma ← comma
    separatedBy closing item bound afterComma state

/-- All items up to a closing character. -/
def separated {α : Type} (closing : Char) (item : α → Reader α) (state : α) : Reader α :=
  fun text => separatedBy closing item (text.length + 1) true state text

/-- All items up to a closing character, which is taken. -/
def enclosed {α : Type} (closing : Char) (item : α → Reader α) (state : α) : Reader α := do
  let state ← separated closing item state
  let _ ← Reader.next
  return state

end CephMount.Ron
