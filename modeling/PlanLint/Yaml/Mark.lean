import PlanLint.Text.Digit

/-! Places in a text, as a reader of it counts them. -/

namespace PlanLint

/-- A place between two characters: how many characters are before it, on which line it is, and at
which column of that line. -/
structure Mark where
  index : Nat
  line : Nat
  column : Nat
deriving DecidableEq, Repr

/-- The start of a text. -/
def Mark.start : Mark := ⟨0, 0, 0⟩

/-- The character that may open a text to tell the order of its bytes; it takes up no column. -/
def byteOrderMark : Char := '\ufeff'

/-- The place behind a character: a newline ends a line, and so does a carriage return that no
newline follows. -/
def Mark.behind (mark : Mark) (c : Char) (next : Option Char) : Mark :=
  if c == '\n' || (c == '\r' && next != some '\n') then ⟨mark.index + 1, mark.line + 1, 0⟩
  else if c == byteOrderMark then ⟨mark.index + 1, mark.line, mark.column⟩
  else ⟨mark.index + 1, mark.line, mark.column + 1⟩

/-- Two marks with one line and one column. -/
def Mark.isBeside (m n : Mark) : Bool := m.line == n.line && m.column == n.column

/-- A mark as it is named in a message; lines and columns are counted from one there. -/
def Mark.text (mark : Mark) : String :=
  "  in \"<file>\", line " ++ decimalText (mark.line + 1) ++ ", column " ++ decimalText (mark.column + 1)

end PlanLint
