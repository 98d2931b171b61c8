import FrontEnd.Unicode.Ranges

/-!
# White space

The characters of the Unicode property `White_Space`.
-/

namespace FrontEnd.Unicode

/-- The property `White_Space`. -/
def whitespaceRanges : Ranges :=
  [(0x9, 0xD), (0x20, 0x20), (0x85, 0x85), (0xA0, 0xA0), (0x1680, 0x1680), (0x2000, 0x200A),
   (0x2028, 0x2029), (0x202F, 0x202F), (0x205F, 0x205F), (0x3000, 0x3000)]

/-- Whether a character is white space. -/
def isWhitespace (c : Char) : Bool := whitespaceRanges.covers c.toNat

end FrontEnd.Unicode
