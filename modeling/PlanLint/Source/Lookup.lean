import PlanLint.Source.Block

/-! Finding keys in the lines of a document. -/

namespace PlanLint

/-- The indentation of the least indented line that says something. -/
def topIndent (lines : List Line) : Nat :=
  (((lines.filter fun line => !isSilent line).map indent).min?).getD 0

/-- A line that says something at a column and gives the key, starting there, a value. -/
def matchKeyAt (column : Nat) (key : List Char) (line : NumberedLine) : Option KeyPosition :=
  if isSilent line.1 || indent line.1 != column then none
  -- A key behind item markers stands deeper than its line is indented.
  else (matchKey line.1 key line.2).filter fun position => position.keyStart == column

/-- The first place where a key stands at the top level. -/
def locateKey (lines : List Line) (key : List Char) : Option KeyPosition :=
  lines.zipIdx.findSome? (matchKeyAt (topIndent lines) key)

/-- The first place of a key, at any depth, in the block that a header opens. -/
def locateKeyBelow (lines : List Line) (key : List Char) (header : KeyPosition) : Option KeyPosition :=
  (blockLines lines header).findSome? fun line => matchKey line.1 key line.2

/-- The first place of a key in the block of another key of the top level. -/
def locateKeyUnder (lines : List Line) (key parent : List Char) : Option KeyPosition :=
  (locateKey lines parent).bind (locateKeyBelow lines key)

/-- The place of a key among the direct children of a header: those at the column of the first line
of its block that says something. -/
def locateChildKey (lines : List Line) (key : List Char) (header : KeyPosition) : Option KeyPosition :=
  let block := blockLines lines header
  match block.find? fun line => !isSilent line.1 with
  | none => none
  | some first => block.findSome? (matchKeyAt (indent first.1) key)

/-- The lines of a span, as far as there are any. -/
def spanLines (lines : List Line) (span : LineSpan) : List NumberedLine :=
  -- The lines keep their numbers in the whole text.
  (lines.zipIdx.drop span.first).take (span.last + 1 - span.first)

/-- The first place of a key in a span of lines. -/
def locateKeyInSpan (lines : List Line) (key : List Char) (span : LineSpan) : Option KeyPosition :=
  (spanLines lines span).findSome? fun line => matchKey line.1 key line.2

/-- The first place of a key in the block of another key that stands in a span of lines. -/
def locateKeyInSpanUnder (lines : List Line) (key parent : List Char) (span : LineSpan) :
    Option KeyPosition :=
  (locateKeyInSpan lines parent span).bind (locateKeyBelow lines key)

/-- The spans of the items of a sequence at the top level; none if its key is not found. -/
def itemSpans (lines : List Line) (key : List Char) : List LineSpan :=
  match locateKey lines key with
  | none => []
  | some header => blockItemSpans lines header

/-- The anchor of the item with an index in a sequence at the top level. -/
def locateArrayItem (lines : List Line) (key : List Char) (index : Int) : Option KeyPosition :=
  (locateKey lines key).bind fun header => blockItemAnchor lines header index

end PlanLint
