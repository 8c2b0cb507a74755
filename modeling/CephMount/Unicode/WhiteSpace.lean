import CephMount.Unicode.Ranges

/-! The Unicode property White_Space: the characters that stand between words. -/

set_option autoImplicit false

namespace CephMount.Unicode

def whiteSpaceRanges : Ranges := [
  (0x9, 0xD), (0x20, 0x20), (0x85, 0x85), (0xA0, 0xA0), (0x1680, 0x1680), (0x2000, 0x200A),
  (0x2028, 0x2029), (0x202F, 0x202F), (0x205F, 0x205F), (0x3000, 0x3000)]

/-- The character separates words. -/
def isWhiteSpace (value : Char) : Bool := whiteSpaceRanges.contains value

end CephMount.Unicode
