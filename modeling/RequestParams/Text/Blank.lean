/-!
# Blank characters

The twenty-five characters of Unicode's `White_Space` property, and texts relative to them.
-/

namespace RequestParams.Text

/-- White space: the ASCII controls from tab to return, the spaces, and the line separators. -/
def isBlank (c : Char) : Bool :=
  let n := c.toNat
  (9 ≤ n && n ≤ 13) || n == 0x20 || n == 0x85 || n == 0xA0 || n == 0x1680 ||
    (0x2000 ≤ n && n ≤ 0x200A) || n == 0x2028 || n == 0x2029 || n == 0x202F ||
    n == 0x205F || n == 0x3000

/-- The text without its leading blanks. -/
def trimLeft (s : List Char) : List Char := s.dropWhile isBlank

/-- The text without its leading and trailing blanks. -/
def trim (s : List Char) : List Char := (trimLeft (trimLeft s).reverse).reverse

/-- No character but blanks. -/
def isBlankText (s : String) : Bool := s.toList.all isBlank

/-- Neither the first nor the last character is blank. -/
def isTrimmed (s : String) : Bool := trim s.toList == s.toList

end RequestParams.Text
