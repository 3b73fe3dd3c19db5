import PlanLint.Yaml.Mark

/-! A reader's place in a text, and the line breaks and markers that it can stand at. -/

namespace PlanLint

/-- A place in a text together with the characters behind it. -/
structure Cursor where
  rest : List Char
  mark : Mark
deriving DecidableEq, Repr

/-- The cursor at the start of a text. -/
def Cursor.ofText (text : List Char) : Cursor := ⟨text, .start⟩

/-- The character that is read behind the end of a text; no text that is read holds it. -/
def endOfText : Char := '\x00'

/-- The character some places behind a cursor. -/
def Cursor.ahead (c : Cursor) (n : Nat) : Char := c.rest.getD n endOfText

/-- The character at a cursor. -/
def Cursor.peek (c : Cursor) : Char := c.rest.headD endOfText

/-- The cursor behind one character. -/
def Cursor.next (c : Cursor) : Cursor :=
  match c.rest with
  | [] => c
  | char :: rest => ⟨rest, c.mark.behind char rest.head?⟩

/-- The cursor behind some characters. -/
def Cursor.skip : Nat → Cursor → Cursor
  | 0, c => c
  | n + 1, c => skip n c.next

/-- The characters at a cursor as long as they have a property, and the cursor behind them. -/
def Cursor.takeRun (belongs : Char → Bool) (c : Cursor) : List Char × Cursor :=
  let run := c.rest.takeWhile belongs
  (run, c.skip run.length)

/-- The cursor behind the characters that have a property. -/
def Cursor.skipRun (belongs : Char → Bool) (c : Cursor) : Cursor := (c.takeRun belongs).2

/-- A character that breaks a line. -/
def breaksLine (c : Char) : Bool :=
  c == '\n' || c == '\r' || c == '\x85' || c == '\u2028' || c == '\u2029'

/-- A character that ends a line of text for good: a line separator does not. -/
def endsLine (c : Char) : Bool := c == '\n' || c == '\r' || c == '\x85' || c == endOfText

/-- A character that ends a word: a blank or the end of a line. -/
def endsWord (c : Char) : Bool := c == ' ' || c == '\t' || endsLine c

/-- A character that ends a name: a space, a line break or the end of the text. -/
def endsName (c : Char) : Bool := c == ' ' || breaksLine c || c == endOfText

/-- The line break at a cursor and the cursor behind it. A break counts as a newline; the two
separators count as themselves. -/
def Cursor.lineBreak? (c : Cursor) : Option (Char × Cursor) :=
  match c.rest with
  | [] => none
  -- The two characters are one break.
  | '\r' :: '\n' :: _ => some ('\n', c.skip 2)
  | char :: _ =>
    if char == '\u2028' || char == '\u2029' then some (char, c.next)
    else if breaksLine char then some ('\n', c.next)
    else none

/-- The cursor behind the line break at it, if there is one. -/
def Cursor.skipBreak (c : Cursor) : Cursor := (c.lineBreak?.map (·.2)).getD c

/-- Whether three characters and the end of a word stand at a cursor. -/
def Cursor.isAtWord (c : Cursor) (word : List Char) : Bool :=
  word.isPrefixOf c.rest && endsWord (c.ahead word.length)

/-- Whether a marker between documents stands at a cursor. -/
def Cursor.isAtMarker (c : Cursor) : Bool :=
  c.isAtWord ['-', '-', '-'] || c.isAtWord ['.', '.', '.']

/-- What a line break inside a scalar counts for, given the breaks that follow it: a single newline
is a space, and one of several is dropped. -/
def foldedBreak (first : Char) (more : List Char) : List Char :=
  if first != '\n' then first :: more
  else if more.isEmpty then [' ']
  else more

end PlanLint
