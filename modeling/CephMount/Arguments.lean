import CephMount.Unicode.WhiteSpace

/-! Further arguments in one text, as an environment variable holds them.

The words of the text are read from left to right as arguments. Only those that give an option a value
have an effect; a flag alone and a stray word have none.
-/

set_option autoImplicit false

namespace CephMount

abbrev Word := List Char

/-- The words of a text: what stands between white space. -/
def wordsOf (text : String) : List Word :=
  (text.toList.splitOnP Unicode.isWhiteSpace).filter fun word => !word.isEmpty

inductive Argument where
  /-- One word, `--key=value`, parted at its first equals sign. -/
  | joined (key value : Word)
  /-- Two words, `--key value`. -/
  | parted (key value : Word)
  /-- One word, `--flag`, with no value for it. -/
  | bare (flag : Word)
  /-- A word that is neither a flag nor a flag's value. -/
  | stray (word : Word)
  deriving DecidableEq, Repr

namespace Argument

/-- What follows the two dashes of a flag. -/
def flag? : Word → Option Word
  | '-' :: '-' :: rest => some rest
  | _ => none

/-- Part a flag at its first equals sign. -/
def assignment? (flag : Word) : Option (Word × Word) :=
  match flag.dropWhile (· != '=') with
  | [] => none
  | _ :: value => some (flag.takeWhile (· != '='), value)

/-- Read words as arguments. A flag without a value of its own takes the next word, unless that is a
flag too. -/
def ofWords : List Word → List Argument
  | [] => []
  | word :: rest =>
    match flag? word with
    | none => stray word :: ofWords rest
    | some flag => match assignment? flag with
      | some (key, value) => joined key value :: ofWords rest
      | none => match rest with
        | [] => [bare flag]
        | value :: more =>
          if (flag? value).isSome then bare flag :: ofWords (value :: more)
          else parted flag value :: ofWords more

/-- The option that an argument sets, with its value. -/
def setting? : Argument → Option (String × String)
  | joined key value | parted key value => some (String.ofList key, String.ofList value)
  | bare _ | stray _ => none

/-- The settings of a text, in order. -/
def settingsOf (text : String) : List (String × String) :=
  (ofWords (wordsOf text)).filterMap setting?

end Argument

end CephMount
