/-!
# Blank text

White space in the sense of Unicode's `White_Space` property, the trimming of it from both ends of a
text, and the texts that nothing is left of.
-/

namespace FilterQuery.Text

/-- The characters with the property `White_Space`. -/
def isWhiteSpace (c : Char) : Bool :=
  let n := c.toNat
  (9 ≤ n && n ≤ 13) || n == 0x20 || n == 0x85 || n == 0xA0 || n == 0x1680
    || (0x2000 ≤ n && n ≤ 0x200A) || n == 0x2028 || n == 0x2029 || n == 0x202F
    || n == 0x205F || n == 0x3000

/-- The text without the white space at its two ends. -/
def trim (s : String) : String :=
  String.ofList ((s.toList.dropWhile isWhiteSpace).reverse.dropWhile isWhiteSpace).reverse

/-- Nothing but white space. -/
def isBlank (s : String) : Bool := s.toList.all isWhiteSpace

/-- The text with its ASCII capitals in lower case. -/
def asciiLower (s : String) : String := s.map Char.toLower

end FilterQuery.Text
