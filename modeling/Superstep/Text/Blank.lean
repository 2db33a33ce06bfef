import Superstep.Text.Ranges

/-! # Blank characters

The characters with the Unicode property White_Space, and the removal of a
text's blank ends.
-/

namespace Superstep.Text

/-- The property White_Space. -/
def blankRanges : Ranges := [
  (0x9, 0xD), (0x20, 0x20), (0x85, 0x85), (0xA0, 0xA0), (0x1680, 0x1680), (0x2000, 0x200A),
  (0x2028, 0x2029), (0x202F, 0x202F), (0x205F, 0x205F), (0x3000, 0x3000)]

def isBlank (c : Char) : Bool :=
  blankRanges.has c

/-- A text as characters without the blank ones at either end. -/
def trimChars (cs : List Char) : List Char :=
  ((cs.dropWhile isBlank).reverse.dropWhile isBlank).reverse

/-- A text without the blank characters at either end. -/
def trim (s : String) : String :=
  String.ofList (trimChars s.toList)

def isAllBlank (s : String) : Bool :=
  s.toList.all isBlank

end Superstep.Text
