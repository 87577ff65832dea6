/-
White space of all scripts: the property White_Space of Unicode 17, and trimming by it.
-/
import PageTemplate.Text.Basic

namespace PageTemplate.Text

/-- The code points of white space. -/
def blankRanges : List (Nat × Nat) := [
  (0x09, 0x0D), (0x20, 0x20), (0x85, 0x85), (0xA0, 0xA0), (0x1680, 0x1680), (0x2000, 0x200A),
  (0x2028, 0x2029), (0x202F, 0x202F), (0x205F, 0x205F), (0x3000, 0x3000)]

/-- A white space character. -/
def isBlank (c : Char) : Bool := inRanges blankRanges c

/-- The text without the white space at its two ends. -/
def trim (text : Text) : Text :=
  ((text.dropWhile isBlank).reverse.dropWhile isBlank).reverse

end PageTemplate.Text
