/-! Properties of characters, given as closed ranges of their numbers.

Two versions of Unicode stand side by side, since texts are shown and configurations are read by parts
that were brought up to date apart. What attaches or has a shape when a text is shown is that of 17.0, and
what may stand in an identifier that is read is that of 18.0. A character that 18.0 added, such as U+0558,
may therefore begin an identifier and is still shown by its number.
-/

set_option autoImplicit false

namespace CephMount.Unicode

/-- The characters with a property, as closed ranges in increasing order. -/
abbrev Ranges := List (Nat × Nat)

def Ranges.contains (ranges : Ranges) (value : Char) : Bool :=
  ranges.any fun range => range.1 ≤ value.toNat && value.toNat ≤ range.2

end CephMount.Unicode
