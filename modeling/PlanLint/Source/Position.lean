/-! Places in the source text: key positions, spans of lines and ranges. -/

namespace PlanLint

/-- Where a key and its value on the same line stand; columns count characters from zero. -/
structure KeyPosition where
  line : Nat
  keyStart : Nat
  keyEnd : Nat
  valueStart : Nat
  valueEnd : Nat
deriving DecidableEq, Repr

/-- The first and the last line of one item. -/
structure LineSpan where
  first : Nat
  last : Nat
deriving DecidableEq, Repr

/-- A place between two characters. -/
structure Position where
  line : Nat
  character : Nat
deriving DecidableEq, Repr

/-- The text from one place to another. -/
structure TextRange where
  start : Position
  stop : Position
deriving DecidableEq, Repr

/-- The part of a line between two columns. -/
def TextRange.onLine (line start stop : Nat) : TextRange := ⟨⟨line, start⟩, ⟨line, stop⟩⟩

end PlanLint
