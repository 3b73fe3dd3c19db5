import PlanLint.Source.Lookup

/-! The ranges that findings point at. -/

namespace PlanLint

/-- The first line of the document. -/
def documentStartRange (lines : List Line) : TextRange :=
  -- A text without lines has an empty range at its start.
  .onLine 0 0 ((lines.head?.map List.length).getD 0)

/-- A whole line, or the document's first one if there is no such line. -/
def lineRange (lines : List Line) (number : Int) : TextRange :=
  if number < 0 then documentStartRange lines
  else match lines[number.toNat]? with
    | none => documentStartRange lines
    | some line => .onLine number.toNat 0 line.length

/-- The lines of a span, from the start of the first to the end of the last. -/
def spanRange (lines : List Line) (span : LineSpan) : TextRange :=
  ⟨⟨span.first, 0⟩, ⟨span.last, ((lines[span.last]?).map List.length).getD 0⟩⟩

/-- The key itself. -/
def KeyPosition.keyRange (position : KeyPosition) : TextRange :=
  .onLine position.line position.keyStart position.keyEnd

/-- The value beside the key. -/
def KeyPosition.valueRange (position : KeyPosition) : TextRange :=
  .onLine position.line position.valueStart position.valueEnd

/-- From the value beside the key to the end of the line, if the line is there. -/
def lineRemainderRange (lines : List Line) (position : KeyPosition) : Option TextRange :=
  (lines[position.line]?).map fun line => .onLine position.line position.valueStart line.length

/-- The whole line of a section's header, or the document's first line. -/
def sectionFallback (lines : List Line) (key : List Char) : TextRange :=
  match locateKey lines key with
  | none => documentStartRange lines
  | some header => lineRange lines header.line

/-- The value beside a section's key, or the document's first line. -/
def sectionValueRange (lines : List Line) (key : List Char) : TextRange :=
  match locateKey lines key with
  | none => documentStartRange lines
  | some header => header.valueRange

/-- The lines of an item, or those of its section's header if the item was not found. -/
def itemRange (lines : List Line) (span : Option LineSpan) (key : List Char) : TextRange :=
  match span with
  | none => sectionFallback lines key
  | some span => spanRange lines span

/-- The value of a field of an item, or the fallback if the item or the field was not found. -/
def fieldValueRange (lines : List Line) (span : Option LineSpan) (key : List Char)
    (fallback : TextRange) : TextRange :=
  match span.bind (locateKeyInSpan lines key) with
  | none => fallback
  | some position => position.valueRange

/-- The value of a field inside another field of an item, or the fallback. -/
def nestedValueRange (lines : List Line) (span : Option LineSpan) (key parent : List Char)
    (fallback : TextRange) : TextRange :=
  match span.bind (locateKeyInSpanUnder lines key parent) with
  | none => fallback
  | some position => position.valueRange

end PlanLint
