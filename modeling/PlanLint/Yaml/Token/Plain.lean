import PlanLint.Yaml.Cursor

/-! Scalars without quotes. -/

namespace PlanLint

/-- What decides how far a plain scalar reaches. -/
structure PlainContext where
  /-- The scalar stands inside brackets or braces. -/
  flow : Bool
  /-- The rules of the first version of the language hold. -/
  firstVersion : Bool
  /-- The least column at which the scalar may go on in block context. -/
  least : Nat

/-- A character that separates the parts of a flow collection. -/
def isFlowMark (c : Char) : Bool :=
  c == ',' || c == ':' || c == '?' || c == '[' || c == ']' || c == '\x7b' || c == '\x7d'

/-- Whether a character belongs to a plain scalar, given the one behind it: a colon does unless a
word ends there. -/
def isPlain (context : PlainContext) (c next : Char) : Bool :=
  -- A colon inside a word belongs to it, also between brackets.
  if c == ':' && !endsWord next then true
  else if c == '?' && !context.firstVersion then true
  else !endsWord c && !(c == ':' && !context.flow) && !(context.flow && isFlowMark c)

/-- The characters of a plain scalar up to a blank or to its end. -/
def plainRun (context : PlainContext) : List Char → List Char
  | [] => []
  | c :: rest => if isPlain context c (rest.headD endOfText) then c :: plainRun context rest else []

/-- The blanks and line breaks between two runs of a plain scalar. -/
structure PlainGap where
  /-- What the gap counts for. -/
  text : List Char
  cursor : Cursor
  /-- The gap holds a line break. -/
  crossed : Bool
  /-- A marker between documents ends the scalar. -/
  closed : Bool

/-- The line breaks behind a first one, spaces between them skipped, up to a marker; whether one is
there. -/
def plainBreaks : Nat → Cursor → List Char × Cursor × Bool
  | 0, c => ([], c, false)
  | fuel + 1, c =>
    if c.peek == ' ' then plainBreaks fuel c.next
    else match c.lineBreak? with
      | none => ([], c, false)
      | some (first, c) =>
        if c.isAtMarker then ([first], c, true)
        else
          let (more, c, closed) := plainBreaks fuel c
          (first :: more, c, closed)

/-- The gap at a cursor, if there is one. -/
def plainGap? (c : Cursor) : Option PlainGap :=
  let (blanks, c) := c.takeRun (· == ' ')
  match c.lineBreak? with
  | none => if blanks.isEmpty then none else some ⟨blanks, c, false, false⟩
  | some (first, c) =>
    -- A marker ends the scalar, and what is between counts for nothing.
    if c.isAtMarker then some ⟨[], c, true, true⟩
    else
      let (more, c, closed) := plainBreaks (c.rest.length + 1) c
      some ⟨foldedBreak first more, c, true, closed⟩

/-- A plain scalar as far as it has been read. -/
structure PlainScalar where
  text : List Char
  /-- The end of its last character. -/
  stop : Mark
  /-- The place behind the blanks and breaks that follow. -/
  cursor : Cursor
  /-- A line break follows. -/
  crossed : Bool

/-- Reads on, run by run, after a gap. -/
def plainFrom (context : PlainContext) : Nat → PlainScalar → List Char → PlainScalar
  | 0, scalar, _ => scalar
  | fuel + 1, scalar, gap =>
    -- A comment follows a gap; inside a run the sign stands for itself.
    if scalar.cursor.peek == '#' then scalar
    else match plainRun context scalar.cursor.rest with
      | [] => scalar
      | run =>
        let behind := scalar.cursor.skip run.length
        let text := scalar.text ++ gap ++ run
        match plainGap? behind with
        | none => ⟨text, behind.mark, behind, false⟩
        | some gap =>
          let read : PlainScalar := ⟨text, behind.mark, gap.cursor, gap.crossed⟩
          -- A marker ends the scalar, and so does a next line that is not deep enough.
          if gap.closed || (!context.flow && gap.cursor.mark.column < context.least) then read
          else plainFrom context fuel read gap.text

/-- The plain scalar at a cursor. -/
def readPlain (context : PlainContext) (c : Cursor) : PlainScalar :=
  plainFrom context (c.rest.length + 1) ⟨[], c.mark, c, false⟩ []

end PlanLint
