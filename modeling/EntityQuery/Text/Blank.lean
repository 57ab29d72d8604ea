import EntityQuery.Text.CharClass

/-!
Blanks: the characters with the Unicode property `White_Space`, and cutting them off both ends of a
text.
-/

namespace EntityQuery.Text

/-- The code points with the property `White_Space`. -/
def blanks : CharClass := [
  (0x09, 0x0D), (0x20, 0x20), (0x85, 0x85), (0xA0, 0xA0), (0x1680, 0x1680), (0x2000, 0x200A),
  (0x2028, 0x2029), (0x202F, 0x202F), (0x205F, 0x205F), (0x3000, 0x3000)]

/-- Whether a character is white space. -/
def isBlank (c : Char) : Bool := blanks.has c

/-- The text without the blanks at its two ends. -/
def trim (s : List Char) : List Char :=
  ((s.dropWhile isBlank).reverse.dropWhile isBlank).reverse

end EntityQuery.Text
