import PlanLint.Yaml.Cursor
import PlanLint.Yaml.Problem

/-! Scalars in the lines below their header. -/

namespace PlanLint

/-- What becomes of the line breaks at the end of a block scalar. -/
inductive Chomping where
  /-- One is kept. -/
  | clip
  /-- None is kept. -/
  | strip
  /-- All are kept. -/
  | keep
deriving DecidableEq, Repr

/-- The header of a block scalar. -/
structure BlockHeader where
  chomping : Chomping
  /-- How much deeper than its parent the scalar is indented, if that is given. -/
  increment : Option Nat
deriving DecidableEq, Repr

/-- The chomping that a sign stands for. -/
def chompingOf? : Char → Option Chomping
  | '+' => some .keep
  | '-' => some .strip
  | _ => none

/-- The indentation given at a cursor, if a digit stands there. -/
def incrementAt (started : Mark) (c : Cursor) : Except ReadError (Option Nat × Cursor) :=
  if isAsciiDigit c.peek then
    if c.peek == '0' then .error (problemWhile .blockScalar started c.mark .zeroIndentation)
    else .ok (hexValue? c.peek, c.next)
  else .ok (none, c)

/-- The chomping and the indentation in a header, in either order. -/
def blockIndicators (started : Mark) (c : Cursor) : Except ReadError (BlockHeader × Cursor) := do
  match chompingOf? c.peek with
  | some chomping =>
    -- The sign of the chomping comes first; else it may follow the digit.
    let (increment, c) ← incrementAt started c.next
    return (⟨chomping, increment⟩, c)
  | none =>
    let (increment, c) ← incrementAt started c
    match increment, chompingOf? c.peek with
    | some _, some chomping => return (⟨chomping, increment⟩, c.next)
    | _, _ => return (⟨.clip, increment⟩, c)

/-- The end of a header's line, where a comment may stand behind a space. -/
def blockHeaderEnd (started : Mark) (c : Cursor) : Except ReadError Cursor :=
  let c := c.skipRun (· == ' ')
  -- Behind the spaces a number sign opens a comment.
  let c := if c.peek == '#' then c.skipRun fun char => !endsLine char else c
  if endsLine c.peek then .ok c.skipBreak
  else .error (problemWhile .blockScalar started c.mark (.textBehindHeader c.peek))

/-- A whole header, behind the sign that opens it. -/
def blockHeader (started : Mark) (c : Cursor) : Except ReadError (BlockHeader × Cursor) := do
  let (header, c) ← blockIndicators started c
  if !endsName c.peek then throw (problemWhile .blockScalar started c.mark (.badHeader c.peek))
  let c ← blockHeaderEnd started c
  return (header, c)

/-- Blank lines: their breaks, the end of the last one, and the cursor behind them. -/
structure BlankLines where
  breaks : List Char
  stop : Mark
  cursor : Cursor

/-- The cursor behind spaces, no further than to a column. -/
def skipIndent (indent : Nat) (c : Cursor) : Cursor :=
  let spaces := (c.rest.takeWhile (· == ' ')).length
  c.skip (min spaces (indent - c.mark.column))

/-- The blank lines of a scalar with a known indentation. -/
def blankLines (indent : Nat) : Nat → Cursor → Mark → BlankLines
  | 0, c, stop => ⟨[], stop, c⟩
  | fuel + 1, c, stop =>
    let c := skipIndent indent c
    -- What is left of the line is text, unless it breaks here.
    match c.lineBreak? with
    | none => ⟨[], stop, c⟩
    | some (first, c) =>
      let more := blankLines indent fuel c c.mark
      { more with breaks := first :: more.breaks }

/-- The blank lines before the first line of text, and the columns at which the deepest of all these
lines and the first blank one end. -/
structure LeadingLines where
  blank : BlankLines
  deepest : Nat
  firstBlank : Option Nat

/-- The lines before the first text, whose indentation they determine. -/
def leadingLines : Nat → Cursor → Mark → LeadingLines
  | 0, c, stop => ⟨⟨[], stop, c⟩, 0, none⟩
  | fuel + 1, c, stop =>
    if c.peek == ' ' then
      let more := leadingLines fuel c.next stop
      -- Each space is passed over by itself, and the deepest column of all is kept.
      { more with deepest := max c.next.mark.column more.deepest }
    else match c.lineBreak? with
      | none => ⟨⟨[], stop, c⟩, 0, none⟩
      | some (first, behind) =>
        let more := leadingLines fuel behind behind.mark
        { more with
          blank := { more.blank with breaks := first :: more.blank.breaks }
          firstBlank := some c.mark.column }

/-- Where the text of a block scalar starts: the blank lines before it, and its indentation. -/
def blockStart (least : Nat) (header : BlockHeader) (c : Cursor) :
    Except ReadError (BlankLines × Nat) :=
  match header.increment with
  | some increment =>
    -- The indentation is counted from the parent, or from the margin at the top.
    let indent := max least 1 + increment - 1
    .ok (blankLines indent (c.rest.length + 1) c c.mark, indent)
  | none =>
    let lines := leadingLines (c.rest.length + 1) c c.mark
    match lines.firstBlank with
    | some column =>
      -- Where the first blank line is indented, no line up to the text may be deeper.
      if 0 < column && column < lines.deepest then
        .error (problemAt lines.blank.cursor.mark .deeperBlankLine)
      else .ok (lines.blank, max least lines.deepest)
    | none => .ok (lines.blank, max least lines.deepest)

/-- A blank inside a line. -/
def isSpaceOrTab (c : Char) : Bool := c == ' ' || c == '\t'

/-- What stands between two lines: their break, or a space for it where lines of text without
additional indentation are folded. -/
def lineJoint (folded : Bool) (first : Option Char) (spaced : Bool) (blank : BlankLines) : List Char :=
  if folded && first == some '\n' && !spaced && !isSpaceOrTab blank.cursor.peek then
    -- A single break folds to a space; of several the first is dropped.
    (if blank.breaks.isEmpty then [' '] else [])
  else first.toList

/-- A block scalar as it was read. -/
structure BlockScalar where
  text : List Char
  stop : Mark
  cursor : Cursor
  /-- Blank lines behind it do not belong to its text. -/
  dropsBlank : Bool

/-- The end of a block scalar, given the break of its last line and the blank lines behind it. -/
def blockScalarEnd (chomping : Chomping) (last : Option Char) (blank : BlankLines) : BlockScalar :=
  match chomping with
  | .keep => ⟨last.toList ++ blank.breaks, blank.stop, blank.cursor, false⟩
  | .clip => ⟨last.toList, blank.stop, blank.cursor, !blank.breaks.isEmpty⟩
  | .strip => ⟨[], blank.stop, blank.cursor, !blank.breaks.isEmpty⟩

/-- The lines of a block scalar, given the break before them and the blank lines. -/
def blockLinesFrom (folded markers : Bool) (chomping : Chomping) (indent : Nat) :
    Nat → Option Char → BlankLines → BlockScalar
  | 0, last, blank => blockScalarEnd chomping last blank
  | fuel + 1, last, blank =>
    let c := blank.cursor
    if c.mark.column == indent && !c.rest.isEmpty then
      let spaced := isSpaceOrTab c.peek
      let (line, c) := c.takeRun fun char => !endsLine char
      let first := c.lineBreak?.map (·.1)
      let c := c.skipBreak
      let next := blankLines indent (c.rest.length + 1) c c.mark
      let c := next.cursor
      -- Where a scalar need not be indented, a marker at the start of a line ends it.
      let isEnd := (markers && c.mark.column == 0 && c.isAtMarker) ||
        !(c.mark.column == indent && !c.rest.isEmpty)
      let more := if isEnd then blockScalarEnd chomping first next
        else
          let more := blockLinesFrom folded markers chomping indent fuel first next
          { more with text := lineJoint folded first spaced next ++ more.text }
      { more with text := blank.breaks ++ line ++ more.text }
    else blockScalarEnd chomping last blank

/-- The block scalar at a cursor, which stands at the sign that opens it; `least` is one more than
the indentation of its parent. -/
def readBlock (folded : Bool) (least : Nat) (c : Cursor) : Except ReadError BlockScalar := do
  let (header, body) ← blockHeader c.mark c.next
  let (blank, indent) ← blockStart least header body
  -- Only at the top, and without a given indentation, can the text stand at the margin.
  let markers := least == 0 && header.increment.isNone
  return blockLinesFrom folded markers header.chomping indent (c.rest.length + 1) none blank

end PlanLint
