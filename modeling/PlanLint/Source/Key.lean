import PlanLint.Source.Position
import PlanLint.Text.Blank

/-! What one line says by itself: its indentation, whether it starts an item, and which key it
gives a value. -/

namespace PlanLint

/-- The number of blanks before the text of a line. -/
def indent (line : Line) : Nat := (line.takeWhile isBlank).length

/-- A line that carries nothing: blank, or only a comment. Such lines neither open nor close a
block. -/
def isSilent (line : Line) : Bool :=
  match trimStart line with
  | [] => true
  | c :: _ => c == '#'

/-- A line that starts an item of a sequence: a dash, then a space or the end. -/
def isItem (line : Line) : Bool :=
  match trimStart line with
  | ['-'] => true
  | '-' :: ' ' :: _ => true
  | _ => false

theorem trimStart_length_le (text : List Char) : (trimStart text).length ≤ text.length :=
  (List.dropWhile_sublist _).length_le

/-- The text behind any item markers that stand before it. -/
def behindMarkers (text : List Char) : List Char :=
  match text with
  | '-' :: ' ' :: rest => behindMarkers (trimStart (' ' :: rest))
  | _ => text
termination_by text.length
decreasing_by
  -- The marker is gone, and trimming adds nothing.
  have shorter := trimStart_length_le (' ' :: rest)
  simp only [List.length_cons] at *
  omega

/-- The content of a line, behind its indentation and its item markers. -/
def content (line : Line) : List Char := behindMarkers (trimStart line)

/-- The column at which the content of a line starts. -/
def contentColumn (line : Line) : Nat := line.length - (content line).length

/-- The text up to a comment: a number sign that follows a blank. -/
def beforeComment (previous : Char) : List Char → List Char
  | [] => []
  | c :: rest => if c == '#' && isBlank previous then [] else c :: beforeComment c rest

/-- The text of a value up to its comment. A value that starts with a quote is kept up to the next
quote of that kind, whatever stands between. -/
def uncommented : List Char → List Char
  | [] => []
  | c :: rest =>
    if c == '#' then []
    else if (c == '\'' || c == '"') && rest.contains c then
      c :: rest.takeWhile (· != c) ++ c :: beforeComment c ((rest.dropWhile (· != c)).drop 1)
    else c :: beforeComment c rest

/-- The value in the text behind a colon or a dash. -/
def inlineValue (after : List Char) : List Char := trimEnd (uncommented (trimStart after))

/-- The columns of the value in the text that starts at a column; without a value both are that
column. -/
def valueColumns (column : Nat) (after : List Char) : Nat × Nat :=
  match inlineValue after with
  | [] => (column, column)
  | value =>
    let start := column + (after.takeWhile isBlank).length
    (start, start + value.length)

/-- The position of a key on a line whose content starts with it: the key, a colon, and then a
blank or the end of the line. -/
def matchKey (line : Line) (key : List Char) (number : Nat) : Option KeyPosition :=
  let text := content line
  if (key ++ [':']).isPrefixOf text then
    let after := text.drop (key.length + 1)
    match after with
    -- A colon inside a word belongs to the word.
    | c :: _ => if isBlank c then some (found after) else none
    | [] => some (found after)
  else none
where
  /-- The columns follow from the text behind the colon. -/
  found (after : List Char) : KeyPosition :=
    let start := contentColumn line
    let stop := start + key.length
    let value := valueColumns (stop + 1) after
    ⟨number, start, stop, value.1, value.2⟩

end PlanLint
