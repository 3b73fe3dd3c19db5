import PlanLint.Yaml.Cursor
import PlanLint.Yaml.Problem

/-! Names: anchors, aliases, tags and directives. -/

namespace PlanLint

/-- An ASCII letter or digit. -/
def isWordCharacter (c : Char) : Bool :=
  isAsciiDigit c || ('a' ≤ c && c ≤ 'z') || ('A' ≤ c && c ≤ 'Z')

/-- A character of the name of an anchor: visible, and no mark of a flow collection. -/
def isAnchorCharacter (c : Char) : Bool :=
  let n := c.toNat
  !(c == ',' || c == '[' || c == ']' || c == '\x7b' || c == '\x7d') &&
    ((0x21 ≤ n && n ≤ 0x7E) || (0xA0 ≤ n && n ≤ 0xFFFD && c != byteOrderMark) || 0x10000 ≤ n)

/-- A character that may follow the name of an anchor. -/
def endsAnchor (c : Char) : Bool :=
  endsName c || c == '\t' || "?:,[]\x7b\x7d%@`".toList.contains c

/-- The name of an anchor or of an alias; the cursor stands at the sign before it. -/
def readAnchor (activity : Activity) (c : Cursor) : Except ReadError (List Char × Cursor) :=
  let (name, behind) := c.next.takeRun isAnchorCharacter
  if name.isEmpty || !endsAnchor behind.peek then
    .error (problemWhile activity c.mark behind.mark (.badName behind.peek))
  else .ok (name, behind)

/-- A character of the address that a tag consists of. -/
def isAddressCharacter (firstVersion : Bool) (c : Char) : Bool :=
  isWordCharacter c || "-;/?:@&=+$,_.!~*'()[]%".toList.contains c || (c == '#' && !firstVersion)

/-- The escapes at a cursor, as they are written: percent signs with two digits each. -/
def readAddressEscapes (activity : Activity) (started : Mark) :
    Nat → Cursor → Except ReadError (List Char × Cursor)
  | 0, c => .ok ([], c)
  | fuel + 1, c =>
    if c.peek == '%' then
      match hexAt2 c.next with
      | some other => .error (problemWhile activity started c.next.mark (.incompleteAddressEscape other))
      | none => do
        let (more, behind) ← readAddressEscapes activity started fuel (c.skip 3)
        -- An escape is kept as it is written.
        return (c.rest.take 3 ++ more, behind)
    else .ok ([], c)
where
  /-- The first of two characters that is no hexadecimal digit. -/
  hexAt2 (c : Cursor) : Option Char := [c.ahead 0, c.ahead 1].find? fun digit => (hexValue? digit).isNone

/-- The address at a cursor, possibly none. -/
def readAddressFrom (firstVersion : Bool) (activity : Activity) (started : Mark) :
    Nat → Cursor → Except ReadError (List Char × Cursor)
  | 0, c => .ok ([], c)
  | fuel + 1, c =>
    let (run, c) := c.takeRun fun char => isAddressCharacter firstVersion char && char != '%'
    if c.peek == '%' then do
      let (escapes, c) ← readAddressEscapes activity started (c.rest.length + 1) c
      let (more, c) ← readAddressFrom firstVersion activity started fuel c
      return (run ++ escapes ++ more, c)
    else .ok (run, c)

/-- The address at a cursor, which must not be empty. -/
def readAddress (firstVersion : Bool) (handle address : Activity) (started : Mark) (c : Cursor) :
    Except ReadError (List Char × Cursor) := do
  let (text, c) ← readAddressFrom firstVersion handle started (c.rest.length + 1) c
  if text.isEmpty then throw (problemWhile address started c.mark (.expectedAddress c.peek))
  return (text, c)

/-- The handle at a cursor: an exclamation mark, alone or behind another with a word between. -/
def readHandle (activity : Activity) (started : Mark) (c : Cursor) :
    Except ReadError (List Char × Cursor) :=
  if c.peek != '!' then .error (problemWhile activity started c.mark (.expectedMark c.peek))
  -- A space follows, so the mark is a handle by itself.
  else if c.ahead 1 == ' ' then .ok (['!'], c.next)
  else
    let (word, behind) := c.next.takeRun fun char => isWordCharacter char || char == '-' || char == '_'
    if behind.peek == '!' then .ok ('!' :: word ++ ['!'], behind.next)
    else .error (problemWhile activity started behind.mark (.expectedMark behind.peek))

/-- A tag without its first sign or signs, given the handle that these are. -/
def readShortTag (firstVersion : Bool) (started : Mark) (signs : List Char) (c : Cursor) :
    Except ReadError (TagName × Cursor) := do
  -- The handle is longer if another exclamation mark follows before the tag ends.
  if (c.next.rest.takeWhile fun char => !endsName char).contains '!' then
    let (handle, c) ← readHandle .tagHandle started c
    let (suffix, c) ← readAddress firstVersion .tagHandle .tagAddress started c
    return (⟨some handle, suffix⟩, c)
  else
    let (suffix, c) ← readAddress firstVersion .tagHandle .tagAddress started c.next
    return (⟨some signs, suffix⟩, c)

/-- A tag between angle brackets, behind the opening one. -/
def readBracketTag (firstVersion : Bool) (started : Mark) (c : Cursor) :
    Except ReadError (TagName × Cursor) := do
  let (suffix, c) ← readAddress firstVersion .tagHandle .tagAddress started c
  if c.peek != '>' then throw (problemWhile .tagBrackets started c.mark (.unclosedTag c.peek))
  return (⟨none, suffix⟩, c.next)

/-- The tag at a cursor. -/
def readTag (firstVersion : Bool) (c : Cursor) : Except ReadError (TagName × Cursor) := do
  let isDouble := c.ahead 1 == '!'
  let signs := if isDouble then ['!', '!'] else ['!']
  -- The cursor is moved to the last of the signs.
  let last := if isDouble then c.next else c
  let (name, behind) ←
    if last.ahead 1 == '<' then readBracketTag firstVersion c.mark (last.skip 2)
    else if endsWord (last.ahead 1) then .ok (⟨none, signs⟩, last.next)
    else readShortTag firstVersion c.mark signs last
  if !endsName behind.peek then throw (problemWhile .tag c.mark behind.mark (.expectedSpace behind.peek))
  return (name, behind)

/-- The name of a directive, behind its percent sign. -/
def readDirectiveName (started : Mark) (c : Cursor) : Except ReadError (List Char × Cursor) :=
  let (name, c) := c.takeRun fun char => isWordCharacter char || "-_:.".toList.contains char
  if name.isEmpty || !endsName c.peek then
    .error (problemWhile .directive started c.mark (.badName c.peek))
  else .ok (name, c)

/-- A number in a directive. -/
def readDirectiveNumber (started : Mark) (c : Cursor) : Except ReadError (Nat × Cursor) :=
  match c.takeRun isAsciiDigit with
  | ([], c) => .error (problemWhile .directive started c.mark (.expectedDigit c.peek))
  | (digits, behind) =>
    -- Numbers in directives have the limit of all decimal numbers.
    if digits.length > digitLimit then .error (problemOf (.tooManyDigits digits.length))
    else .ok (ofDigits 10 (digits.filterMap hexValue?), behind)

/-- The version that a directive names. -/
def readVersion (started : Mark) (c : Cursor) : Except ReadError (Directive × Cursor) := do
  let (major, c) ← readDirectiveNumber started (c.skipRun (· == ' '))
  if c.peek != '.' then throw (problemWhile .directive started c.mark (.expectedDigitOrDot c.peek))
  let (minor, c) ← readDirectiveNumber started c.next
  if !endsName c.peek then
    throw (problemWhile .directive started c.mark (.expectedDigitOrSpace c.peek))
  return (.version major minor, c)

/-- The handle that a directive declares, and what it stands for. -/
def readHandleDirective (firstVersion : Bool) (started : Mark) (c : Cursor) :
    Except ReadError (Directive × Cursor) := do
  let (handle, c) ← readHandle .directiveHandle started (c.skipRun (· == ' '))
  if c.peek != ' ' then throw (problemWhile .directive started c.mark (.expectedSpace c.peek))
  let (start, c) ←
    readAddress firstVersion .directiveHandle .directiveAddress started (c.skipRun (· == ' '))
  if !endsName c.peek then throw (problemWhile .directive started c.mark (.expectedSpace c.peek))
  return (.handle handle start, c)

/-- A directive as it was read: the end of its value, and the place behind its line. -/
structure DirectiveLine where
  directive : Directive
  stop : Mark
  cursor : Cursor

/-- The directive at a cursor, which stands at its percent sign. -/
def readDirective (firstVersion : Bool) (c : Cursor) : Except ReadError DirectiveLine := do
  let started := c.mark
  let (name, c) ← readDirectiveName started c.next
  let (directive, c, stop) ←
    if name == "YAML".toList then do
      let (version, c) ← readVersion started c
      pure (version, c, c.mark)
    else if name == "TAG".toList then do
      let (handle, c) ← readHandleDirective firstVersion started c
      pure (handle, c, c.mark)
    -- The rest of the line belongs to a directive that is not known.
    else pure (Directive.unknown, c.skipRun fun char => !endsLine char, c.mark)
  let c := c.skipRun (· == ' ')
  -- A comment may stand behind any directive.
  let c := if c.peek == '#' then c.skipRun fun char => !endsLine char else c
  if endsLine c.peek then return ⟨directive, stop, c.skipBreak⟩
  else throw (problemWhile .directive started c.mark (.textBehindHeader c.peek))

end PlanLint
