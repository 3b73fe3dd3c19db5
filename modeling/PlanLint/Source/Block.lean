import PlanLint.Source.Key

/-! The block of lines that belongs to a header, and the items in it. -/

namespace PlanLint

/-- A line together with its number. -/
abbrev NumberedLine := Line × Nat

/-- A line goes on with the block of a header when it is indented deeper than the header's key, or
starts an item at the same column. -/
def continuesBlock (column : Nat) (line : Line) : Bool :=
  column < indent line || (indent line == column && isItem line)

/-- The lines below a header up to the first line that says something and does not go on with the
block; silent lines at the end do not belong to it. -/
def blockBody (column : Nat) (below : List Line) : List Line :=
  -- Silent lines do not close a block, whatever their indentation is.
  let reached := below.takeWhile fun line => isSilent line || continuesBlock column line
  (reached.reverse.dropWhile isSilent).reverse

/-- The numbered lines of the block that a header opens. -/
def blockLines (lines : List Line) (header : KeyPosition) : List NumberedLine :=
  (blockBody header.keyStart (lines.drop (header.line + 1))).zipIdx (header.line + 1)

/-- One past the last line of the block that a header opens. -/
def blockEnd (lines : List Line) (header : KeyPosition) : Nat :=
  header.line + 1 + (blockBody header.keyStart (lines.drop (header.line + 1))).length

/-- A line that says something and starts an item. -/
def startsItem (line : NumberedLine) : Bool := !isSilent line.1 && isItem line.1

/-- The lines that start the items of a block: those at the column of the first one. -/
def itemStarts (block : List NumberedLine) : List NumberedLine :=
  match block.filter startsItem with
  | [] => []
  -- Deeper dashes belong to the items, and shallower ones are no items of this block.
  | first :: rest => first :: rest.filter fun line => indent line.1 == indent first.1

/-- The last line between two numbers that says something, or the first number if there is none. -/
def lastSpoken (block : List NumberedLine) (first stop : Nat) : Nat :=
  match (block.filter fun line => first < line.2 && line.2 < stop && !isSilent line.1).getLast? with
  | some line => line.2
  | none => first

/-- The spans of items that start at the given lines: each ends with the last line that says
something before the next one, or before the end of the block. -/
def spansFrom (block : List NumberedLine) (stop : Nat) : List Nat → List LineSpan
  | [] => []
  | [start] => [⟨start, lastSpoken block start stop⟩]
  | start :: next :: rest => ⟨start, lastSpoken block start next⟩ :: spansFrom block stop (next :: rest)

/-- The spans of the items in the block that a header opens. -/
def blockItemSpans (lines : List Line) (header : KeyPosition) : List LineSpan :=
  let block := blockLines lines header
  spansFrom block (blockEnd lines header) ((itemStarts block).map (·.2))

/-- The dash of an item's first line, and the value behind it. -/
def itemAnchor (line : NumberedLine) : KeyPosition :=
  -- The value of an item stands behind its dash as that of a key does behind its colon.
  let dash := indent line.1
  let value := valueColumns (dash + 1) ((trimEnd line.1).drop (dash + 1))
  ⟨line.2, dash, dash + 1, value.1, value.2⟩

/-- The anchor of the item with an index in the block that a header opens. -/
def blockItemAnchor (lines : List Line) (header : KeyPosition) (index : Int) : Option KeyPosition :=
  if index < 0 then none
  else ((itemStarts (blockLines lines header))[index.toNat]?).map itemAnchor

end PlanLint
