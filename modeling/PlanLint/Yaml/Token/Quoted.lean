import PlanLint.Yaml.Cursor
import PlanLint.Yaml.Problem

/-! Scalars in quotes. -/

namespace PlanLint

/-- A character without a meaning of its own inside quotes. -/
def isOrdinary (c : Char) : Bool :=
  c != ' ' && c != '\t' && c != '\'' && c != '"' && c != '\\' && c != endOfText && !breaksLine c

/-- The character that an escape of one letter stands for. -/
def escapeOf? : Char → Option Char
  | '0' => some '\x00'
  | 'a' => some '\x07'
  | 'b' => some '\x08'
  | 't' => some '\t'
  | '\t' => some '\t'
  | 'n' => some '\n'
  | 'v' => some '\x0b'
  | 'f' => some '\x0c'
  | 'r' => some '\r'
  | 'e' => some '\x1b'
  | ' ' => some ' '
  | '"' => some '"'
  | '/' => some '/'
  | '\\' => some '\\'
  | 'N' => some '\x85'
  | '_' => some '\xa0'
  | 'L' => some '\u2028'
  | 'P' => some '\u2029'
  | _ => none

/-- The number of hexadecimal digits that follow an escape letter. -/
def escapeWidth? : Char → Option Nat
  | 'x' => some 2
  | 'u' => some 4
  | 'U' => some 8
  | _ => none

/-- The number that some hexadecimal digits at a cursor spell, or the first character among them
that is none. -/
def hexAt (width : Nat) (c : Cursor) : Except Char Nat :=
  -- The characters are only looked at; the first that is no digit is the one that is named.
  match ((List.range width).map c.ahead).find? fun digit => (hexValue? digit).isNone with
  | some other => .error other
  | none => .ok (ofDigits 16 (((List.range width).map c.ahead).filterMap hexValue?))

/-- The second half of a pair of sixteen-bit units, if an escape for one stands at a cursor. -/
def lowUnitAt? (c : Cursor) : Option Nat :=
  if c.ahead 0 == '\\' && c.ahead 1 == 'u' then
    match hexAt 4 (c.skip 2) with
    | .ok unit => if 0xDC00 ≤ unit && unit < 0xE000 then some unit else none
    | .error _ => none
  else none

/-- The character with an escaped code, and the cursor behind it; two halves of a pair make one
character. -/
def escapedCharacter (code : Nat) (c : Cursor) : Except ReadError (Char × Cursor) :=
  if code > 0x7FFFFFFF then .error (.breakdown .hugeCode)
  else if code > 0x10FFFF then .error (problemOf .noSuchCharacter)
  else if 0xD800 ≤ code && code < 0xDC00 then
    -- A first half without its second is read as the character for what is unknown.
    match lowUnitAt? c with
    | some low => .ok (Char.ofNat (0x10000 + (code - 0xD800) * 1024 + (low - 0xDC00)), c.skip 6)
    | none => .ok ('\ufffd', c)
  else .ok (Char.ofNat code, c)

/-- The line breaks behind a first one; blanks at the starts of lines are skipped. -/
def quotedBreaks (started : Mark) : Nat → Cursor → Except ReadError (List Char × Cursor)
  | 0, c => .ok ([], c)
  | fuel + 1, c =>
    -- A marker inside quotes is a fault, whatever stands behind it.
    if c.isAtMarker then .error (problemWhile .quotedScalar started c.mark .separatorInQuotes)
    else
      let c := c.skipRun fun char => char == ' ' || char == '\t'
      match c.lineBreak? with
      | none => .ok ([], c)
      | some (first, c) => do
        let (more, c) ← quotedBreaks started fuel c
        return (first :: more, c)

/-- An escape behind its backslash: what it stands for, and the cursor behind it. -/
def quotedEscape (started : Mark) (c : Cursor) : Except ReadError (List Char × Cursor) :=
  match escapeOf? c.peek, escapeWidth? c.peek, c.lineBreak? with
  | some char, _, _ => .ok ([char], c.next)
  | none, some width, _ =>
    match hexAt width c.next with
    | .error other =>
      .error (problemWhile .doubleQuotedScalar started c.next.mark (.incompleteEscape width other))
    | .ok code => do
      let (char, c) ← escapedCharacter code (c.next.skip width)
      return ([char], c)
  -- An escaped line break joins two lines.
  | none, none, some (_, behind) => quotedBreaks started (behind.rest.length + 1) behind
  | none, none, none =>
    .error (problemWhile .doubleQuotedScalar started c.mark (.unknownEscape c.peek))

/-- The text at a cursor up to a blank, a line break or the closing quote. -/
def quotedRun (double : Bool) (started : Mark) : Nat → Cursor → Except ReadError (List Char × Cursor)
  | 0, c => .ok ([], c)
  | fuel + 1, c =>
    let (run, c) := c.takeRun isOrdinary
    let char := c.peek
    let goOn (text : List Char) (c : Cursor) : Except ReadError (List Char × Cursor) := do
      let (more, c) ← quotedRun double started fuel c
      return (run ++ text ++ more, c)
    if double then
      if char == '\'' then goOn ['\''] c.next
      else if char == '\\' then do
        let (text, c) ← quotedEscape started c.next
        goOn text c
      else .ok (run, c)
    -- A single quote inside single quotes is written twice.
    else if char == '\'' && c.ahead 1 == '\'' then goOn ['\''] (c.skip 2)
    else if char == '"' || char == '\\' then goOn [char] c.next
    else .ok (run, c)

/-- The blanks and line breaks at a cursor, and what they count for. -/
def quotedGap (started : Mark) (c : Cursor) : Except ReadError (List Char × Cursor) :=
  let (blanks, c) := c.takeRun fun char => char == ' ' || char == '\t'
  if c.rest.isEmpty then .error (problemWhile .quotedScalar started c.mark .endInQuotes)
  else match c.lineBreak? with
    | none => .ok (blanks, c)
    | some (first, c) => do
      let (more, c) ← quotedBreaks started (c.rest.length + 1) c
      return (foldedBreak first more, c)

/-- Reads on to the closing quote. -/
def quotedFrom (double : Bool) (started : Mark) : Nat → Cursor → Except ReadError (List Char × Cursor)
  | 0, c => .error (problemWhile .quotedScalar started c.mark .endInQuotes)
  | fuel + 1, c =>
    if c.peek == (if double then '"' else '\'') then .ok ([], c.next)
    else do
      -- Blanks and text take turns up to the closing quote.
      let (gap, c) ← quotedGap started c
      let (run, c) ← quotedRun double started (c.rest.length + 1) c
      let (more, c) ← quotedFrom double started fuel c
      return (gap ++ run ++ more, c)

/-- The quoted scalar at a cursor, which stands at its opening quote. -/
def readQuoted (double : Bool) (c : Cursor) : Except ReadError (List Char × Cursor) := do
  let (run, behind) ← quotedRun double c.mark (c.rest.length + 1) c.next
  let (more, behind) ← quotedFrom double c.mark (c.rest.length + 1) behind
  return (run ++ more, behind)

end PlanLint
