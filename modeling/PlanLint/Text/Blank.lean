/-! Blank characters and the trimming of lines. -/

namespace PlanLint

/-- A line of source text, as its code points. -/
abbrev Line := List Char

/-- The twenty-nine characters that count as white space: the separators and the control characters
that end lines, tab fields or split records. -/
def isBlank (c : Char) : Bool :=
  let n := c.toNat
  -- The contiguous runs come first, the lone separators after them.
  (9 ≤ n && n ≤ 13) || (28 ≤ n && n ≤ 32) || (0x2000 ≤ n && n ≤ 0x200A) ||
    n == 0x85 || n == 0xA0 || n == 0x1680 || n == 0x2028 || n == 0x2029 ||
    n == 0x202F || n == 0x205F || n == 0x3000

/-- The text without blanks at its start. -/
def trimStart (text : List Char) : List Char := text.dropWhile isBlank

/-- The text without blanks at its end. -/
def trimEnd (text : List Char) : List Char := (text.reverse.dropWhile isBlank).reverse

/-- The text without blanks at either end. -/
def trim (text : List Char) : List Char := trimEnd (trimStart text)

/-- A string of blanks only; the empty string is one. -/
def isBlankText (text : String) : Bool := text.toList.all isBlank

end PlanLint
