import PlanLint.Yaml.Token.Plain
import PlanLint.Yaml.Token.Quoted
import PlanLint.Yaml.Token.Block
import PlanLint.Yaml.Token.Name

/-! From characters to tokens. Indentation becomes tokens that open and close collections, and a key
without a question mark is recognised when its colon is reached. -/

namespace PlanLint

/-- The kinds of flow collections. -/
inductive Bracket where
  | square
  | curly
deriving DecidableEq, Repr

/-- A token that turns out to start a key if a colon follows it on its line. -/
structure PendingKey where
  /-- The number of brackets around it. -/
  level : Nat
  /-- The number of entries before it. -/
  number : Nat
  /-- Nothing but a key can stand there. -/
  required : Bool
  mark : Mark
deriving DecidableEq, Repr

/-- A text that has been turned into tokens up to a cursor. -/
structure Lexer where
  cursor : Cursor
  /-- The tokens and comments, the last one first. -/
  entries : List Token
  count : Nat
  /-- The columns of the open block collections, the innermost first. -/
  indents : List Nat
  /-- The open flow collections, the innermost first. -/
  brackets : List Bracket
  pending : List PendingKey
  /-- A key may start at the cursor. -/
  allowsKey : Bool
  version : Nat × Nat
  done : Bool

/-- The version of the language that holds where no directive names another. -/
def currentVersion : Nat × Nat := (1, 2)

/-- The version whose rules for plain scalars differ from the current ones. -/
def firstVersion : Nat × Nat := (1, 1)

/-- A lexer at the start of a text. -/
def Lexer.ofText (text : List Char) : Lexer :=
  ⟨.ofText text, [], 0, [], [], [], true, currentVersion, false⟩

/-- What stands before the next token: the start of a comment or of blank lines, if there are any,
the place behind, and whether a line break was crossed. -/
structure Lead where
  comment : Option Mark
  cursor : Cursor
  crossed : Bool

/-- The blanks, breaks and comments at a cursor, up to the end of the first comment. -/
def leadFrom (flow : Bool) : Nat → Cursor → Bool → Lead
  | 0, c, crossed => ⟨none, c, crossed⟩
  | fuel + 1, c, crossed =>
    let c := c.skipRun fun char => char == ' ' || (flow && char == '\t')
    if c.peek == '#' then
      -- A comment ends with its line, and any line breaks behind it go with it.
      let behind := (c.skipRun fun char => !endsLine char).next
      ⟨some c.mark, behind.skipRun breaksLine, true⟩
    else match c.lineBreak? with
      | none => ⟨none, c, crossed⟩
      | some (_, c) =>
        -- Blank lines count as a comment.
        if c.peek == '\n' then ⟨some c.mark, c.skipRun fun char => isSpaceOrTab char || breaksLine char, true⟩
        else leadFrom flow fuel c true

/-- The blanks, breaks and comments at a cursor. -/
def Cursor.lead (flow : Bool) (c : Cursor) : Lead := leadFrom flow (c.rest.length + 1) c false

/-- The place behind comments, one after the other. -/
def skipCommentsFrom : Nat → Cursor → Cursor
  | 0, c => c
  | fuel + 1, c =>
    let lead := c.lead false
    if lead.comment.isSome then skipCommentsFrom fuel lead.cursor else lead.cursor

/-- The place behind all blanks, breaks and comments at a cursor. -/
def Cursor.skipComments (c : Cursor) : Cursor := skipCommentsFrom (c.rest.length + 1) c

namespace Lexer

/-- Whether the cursor is inside brackets. -/
def isFlow (l : Lexer) : Bool := !l.brackets.isEmpty

/-- The column of the cursor. -/
def column (l : Lexer) : Nat := l.cursor.mark.column

/-- The number of brackets around the cursor. -/
def level (l : Lexer) : Nat := l.brackets.length

/-- One more than the column of the innermost block collection. -/
def least (l : Lexer) : Nat := (l.indents.head?.map (· + 1)).getD 0

/-- Whether the first version's rules hold. -/
def isFirstVersion (l : Lexer) : Bool := l.version == firstVersion

/-- One more entry, behind which the cursor then stands. -/
def push (l : Lexer) (kind : TokenKind) (start stop : Mark) (cursor : Cursor) : Lexer :=
  { l with cursor, entries := ⟨kind, start, stop⟩ :: l.entries, count := l.count + 1 }

/-- A token of some characters at the cursor. -/
def pushWidth (l : Lexer) (kind : TokenKind) (width : Nat) : Lexer :=
  let behind := l.cursor.skip width
  l.push kind l.cursor.mark behind.mark behind

/-- A token without characters at the cursor. -/
def pushEmpty (l : Lexer) (kind : TokenKind) : Lexer :=
  l.push kind l.cursor.mark l.cursor.mark l.cursor

/-- A token without characters before the entry with a number. -/
def insertEmpty (l : Lexer) (kind : TokenKind) (number : Nat) (mark : Mark) : Lexer :=
  let behind := l.count - number
  { l with
    entries := l.entries.take behind ++ ⟨kind, mark, mark⟩ :: l.entries.drop behind
    count := l.count + 1 }

/-- The problem of a place where only a key can stand, but no colon follows. -/
def missingColon (l : Lexer) (key : PendingKey) : ReadError :=
  problemWhile .simpleKey key.mark l.cursor.mark .missingColon

/-- Gives up the pending keys with a property. -/
def dropKeys (l : Lexer) (isDropped : PendingKey → Bool) : Except ReadError Lexer :=
  match l.pending.find? fun key => isDropped key && key.required with
  | some key => .error (l.missingColon key)
  | none => .ok { l with pending := l.pending.filter fun key => !isDropped key }

/-- Gives up the pending key of the current level. -/
def dropKey (l : Lexer) : Except ReadError Lexer := l.dropKeys fun key => key.level == l.level

/-- Gives up the pending keys that are on another line or more than 1024 characters back. -/
def dropStaleKeys (l : Lexer) : Except ReadError Lexer :=
  l.dropKeys fun key =>
    key.mark.line != l.cursor.mark.line || l.cursor.mark.index - key.mark.index > 1024

/-- Notes that the next token may start a key. -/
def saveKey (l : Lexer) : Except ReadError Lexer :=
  if l.allowsKey then do
    -- At the column of the open block nothing but a key of that block can stand.
    let required := !l.isFlow && l.indents.head? == some l.column
    let l ← l.dropKey
    return { l with pending := ⟨l.level, l.count, required, l.cursor.mark⟩ :: l.pending }
  else .ok l

/-- Closes the block collections with a property, as far as they are innermost. -/
def closeWhile (isClosed : Nat → Bool) : List Nat → Lexer → Lexer
  | [], l => { l with indents := [] }
  | indent :: outer, l =>
    if isClosed indent then closeWhile isClosed outer (l.pushEmpty .blockEnd)
    else { l with indents := indent :: outer }

/-- Closes the block collections that are indented deeper than the cursor. -/
def unwind (l : Lexer) : Lexer :=
  if l.isFlow then l else closeWhile (l.column < ·) l.indents l

/-- Closes all block collections. -/
def unwindAll (l : Lexer) : Lexer := if l.isFlow then l else closeWhile (fun _ => true) l.indents l

/-- Whether a collection at a column is deeper than all open ones. -/
def isDeeper (l : Lexer) (column : Nat) : Bool := l.indents.head?.all (· < column)

/-- Opens a block collection at the cursor if it is deeper than the open ones. -/
def openBlock (l : Lexer) (kind : TokenKind) : Lexer :=
  if l.isDeeper l.column then { l.pushEmpty kind with indents := l.column :: l.indents } else l

/-- The end of the text. -/
def fetchEnd (l : Lexer) : Except ReadError Lexer := do
  let l ← l.unwindAll.dropKey
  -- Keys that are pending further out are given up as well.
  return { l.pushEmpty .streamEnd with allowsKey := false, pending := [], done := true }

/-- A directive. -/
def fetchDirective (l : Lexer) : Except ReadError Lexer := do
  let l ← l.unwindAll.dropKey
  let line ← readDirective l.isFirstVersion l.cursor
  -- A version that is named holds from the next token on.
  let version := match line.directive with
    | .version major minor => (major, minor)
    | _ => l.version
  return { l.push (.directive line.directive) l.cursor.mark line.stop line.cursor with
    allowsKey := false, version }

/-- A marker between documents. -/
def fetchMarker (kind : TokenKind) (l : Lexer) : Except ReadError Lexer := do
  let l ← l.unwindAll.dropKey
  return { l.pushWidth kind 3 with allowsKey := false }

/-- An opening bracket. -/
def fetchOpening (kind : TokenKind) (bracket : Bracket) (l : Lexer) : Except ReadError Lexer := do
  let l ← l.saveKey
  return { l.pushWidth kind 1 with allowsKey := true, brackets := bracket :: l.brackets }

/-- A closing bracket, whether or not one is open. -/
def fetchClosing (kind : TokenKind) (l : Lexer) : Except ReadError Lexer := do
  let l ← l.dropKey
  return { l.pushWidth kind 1 with allowsKey := false, brackets := l.brackets.drop 1 }

/-- A comma between the parts of a flow collection. -/
def fetchComma (l : Lexer) : Except ReadError Lexer := do
  let l ← l.dropKey
  return { l.pushWidth .flowEntry 1 with allowsKey := true }

/-- The dash of an item. -/
def fetchDash (l : Lexer) : Except ReadError Lexer := do
  -- Inside brackets a dash is left to the parser, which refuses it.
  if !l.isFlow && !l.allowsKey then throw (problemAt l.cursor.mark .entryNotAllowed)
  let l := if l.isFlow then l else l.openBlock .blockSequenceStart
  let l ← l.dropKey
  return { l.pushWidth .blockEntry 1 with allowsKey := true }

/-- The question mark of a key. -/
def fetchQuestion (l : Lexer) : Except ReadError Lexer := do
  if !l.isFlow && !l.allowsKey then throw (problemAt l.cursor.mark .keyNotAllowed)
  let l := if l.isFlow then l else l.openBlock .blockMappingStart
  let l ← l.dropKey
  return { l.pushWidth .key 1 with allowsKey := !l.isFlow }

/-- A pending key becomes one, and opens a mapping if it is deeper than the open collections. -/
def confirmKey (l : Lexer) (key : PendingKey) : Lexer :=
  -- There is one pending key for each level at most, and this was it.
  let l := { l with pending := l.pending.filter fun other => other.level != key.level }
  let l := l.insertEmpty .key key.number key.mark
  -- The key is deeper than any open block, so a mapping starts with it.
  if !l.isFlow && l.isDeeper key.mark.column then
    { l.insertEmpty .blockMappingStart key.number key.mark with
      indents := key.mark.column :: l.indents }
  else l

/-- The colon of a value. -/
def fetchColon (l : Lexer) : Except ReadError Lexer := do
  match l.pending.find? fun key => key.level == l.level with
  -- The colon belongs to the key that was noted; where there is none, the key is empty or behind a question mark.
  | some key => return { (l.confirmKey key).pushWidth (.value false) 1 with allowsKey := false }
  | none =>
    if !l.isFlow && !l.allowsKey then throw (problemAt l.cursor.mark .valueNotAllowed)
    let l := if l.isFlow then l else l.openBlock .blockMappingStart
    let l ← l.dropKey
    return { l.pushWidth (.value false) 1 with allowsKey := !l.isFlow }

/-- An alias. -/
def fetchAlias (l : Lexer) : Except ReadError Lexer := do
  let l ← l.saveKey
  let (name, behind) ← readAnchor .alias l.cursor
  return { l.push (.alias name) l.cursor.mark behind.mark behind with allowsKey := false }

/-- An anchor. -/
def fetchAnchor (l : Lexer) : Except ReadError Lexer := do
  let l ← l.saveKey
  let (name, behind) ← readAnchor .anchor l.cursor
  return { l.push (.anchor name) l.cursor.mark behind.mark behind with allowsKey := false }

/-- A tag. -/
def fetchTag (l : Lexer) : Except ReadError Lexer := do
  let l ← l.saveKey
  let (name, behind) ← readTag l.isFirstVersion l.cursor
  return { l.push (.tag name) l.cursor.mark behind.mark behind with allowsKey := false }

/-- A scalar in quotes. -/
def fetchQuoted (double : Bool) (l : Lexer) : Except ReadError Lexer := do
  let l ← l.saveKey
  let (text, behind) ← readQuoted double l.cursor
  let style := if double then ScalarStyle.doubleQuoted else .singleQuoted
  return { l.push (.scalar style text) l.cursor.mark behind.mark behind with allowsKey := false }

/-- A scalar without quotes. -/
def fetchPlain (l : Lexer) : Except ReadError Lexer := do
  let l ← l.saveKey
  let scalar := readPlain ⟨l.isFlow, l.isFirstVersion, l.least⟩ l.cursor
  -- Behind a line break a key may stand again.
  return { l.push (.scalar .plain scalar.text) l.cursor.mark scalar.stop scalar.cursor with
    allowsKey := scalar.crossed }

/-- Whether a plain scalar can start at the cursor. -/
def startsPlain (l : Lexer) : Bool :=
  let c := l.cursor.peek
  let next := l.cursor.ahead 1
  if !endsName c && c != '\t' && !"-?:,[]\x7b\x7d#&*!|>'\"%@`".toList.contains c then true
  -- Of the other signs only three can start a scalar, and none of them in front of a blank.
  else if c == '-' then !endsWord next
  else if !l.isFlow then (c == '?' || c == ':') && !endsWord next
  else !l.isFirstVersion && c == ':' && next != ' ' && next != '\t'

/-- Whether the last entry that is no comment is the colon of a value, with nothing behind it but
comments that start on its line. -/
def followsColon (l : Lexer) : Bool :=
  match l.entries with
  | ⟨.value _, _, _⟩ :: _ => true
  | entries =>
    match entries.dropWhile fun entry => entry.kind == .comment with
    | ⟨.value true, _, _⟩ :: _ => true
    | _ => false

/-- Whether a colon at the cursor belongs to a value. -/
def startsValue (l : Lexer) : Bool :=
  let isWord := !endsWord (l.cursor.ahead 1)
  match l.brackets with
  | [] => !isWord
  -- Inside brackets a colon may also stand right in front of its value.
  | bracket :: _ =>
    l.isFirstVersion || !isWord || (bracket == .curly && !l.followsColon)

/-- The token at the cursor. -/
def fetch (l : Lexer) : Except ReadError Lexer :=
  let c := l.cursor.peek
  let isWord := !endsWord (l.cursor.ahead 1)
  let isFirstColumn := l.column == 0
  -- The order counts: markers come before dashes, and a plain scalar is what nothing else starts.
  if l.cursor.rest.isEmpty then l.fetchEnd
  else if c == '%' && isFirstColumn then l.fetchDirective
  else if isFirstColumn && l.cursor.isAtWord ['-', '-', '-'] then l.fetchMarker .documentStart
  else if isFirstColumn && l.cursor.isAtWord ['.', '.', '.'] then l.fetchMarker .documentEnd
  else if c == '[' then l.fetchOpening .flowSequenceStart .square
  else if c == '\x7b' then l.fetchOpening .flowMappingStart .curly
  else if c == ']' then l.fetchClosing .flowSequenceEnd
  else if c == '\x7d' then l.fetchClosing .flowMappingEnd
  else if c == ',' then l.fetchComma
  else if c == '-' && !isWord then l.fetchDash
  else if c == '?' && (l.isFlow || !isWord) then l.fetchQuestion
  else if c == ':' && l.startsValue then l.fetchColon
  else if c == '*' then l.fetchAlias
  else if c == '&' then l.fetchAnchor
  else if c == '!' then l.fetchTag
  else if c == '|' && !l.isFlow then fetchBlock false
  else if c == '>' && !l.isFlow then fetchBlock true
  else if c == '\'' then l.fetchQuoted false
  else if c == '"' then l.fetchQuoted true
  else if l.startsPlain then l.fetchPlain
  else .error (.problem
    { reason := .cannotStart c, place := some l.cursor.mark, activity := some .nextToken })
where
  /-- A block scalar. -/
  fetchBlock (folded : Bool) : Except ReadError Lexer := do
    let l ← l.dropKey
    let scalar ← readBlock folded l.least l.cursor
    let style := if folded then ScalarStyle.folded else .literal
    let cursor := if scalar.dropsBlank then scalar.cursor.skipComments else scalar.cursor
    return { l.push (.scalar style scalar.text) l.cursor.mark scalar.stop cursor with allowsKey := true }

/-- Notes on a colon that a comment follows on its line. -/
def markCommented (start : Mark) : List Token → List Token
  | ⟨.value _, first, last⟩ :: rest => ⟨.value (last.line == start.line), first, last⟩ :: rest
  | entries => entries

/-- One more entry: a comment or a token, the latter behind what its indentation closes. -/
def step (l : Lexer) : Except ReadError Lexer := do
  -- A mark of the byte order is only passed over at the very start.
  let opening := l.cursor.mark.index == 0 && l.cursor.peek == byteOrderMark
  let start := if opening then l.cursor.next else l.cursor
  let lead := start.lead l.isFlow
  let l := { l with allowsKey := l.allowsKey || (lead.crossed && !l.isFlow) }
  match lead.comment with
  -- A comment is one more entry, which a colon before it takes note of.
  | some mark =>
    return { l with entries := markCommented mark l.entries }.push .comment mark lead.cursor.mark lead.cursor
  | none =>
    -- Keys that came too far back are given up before any block is closed.
    let l ← { l with cursor := lead.cursor }.dropStaleKeys
    l.unwind.fetch

/-- One more entry, after which pending keys that are out of reach are given up. -/
def advance (l : Lexer) : Except ReadError Lexer := do
  let l ← l.step
  if l.done then return l else l.dropStaleKeys

end Lexer

/-- The tokens of a text, and why there are no more of them if it does not end well. -/
structure TokenList where
  tokens : List Token
  failure : Option ReadError

/-- The entries that can be relied on when a text cannot be read further: each with another one
behind it, and none from the first pending key on. -/
def Lexer.settled (l : Lexer) : List Token :=
  -- From a pending key on, tokens could still be put in before those that are there.
  let limit := l.pending.foldl (fun n key => min n key.number) (l.count - 1)
  l.entries.reverse.take limit

/-- The entries without the comments. -/
def withoutComments (entries : List Token) : List Token := entries.filter fun entry => entry.kind != .comment

/-- Turns the rest of a text into tokens. -/
def Lexer.run : Nat → Lexer → TokenList
  | 0, l => ⟨withoutComments l.settled, some (problemOf .tooDeep)⟩
  | fuel + 1, l =>
    if l.done then ⟨withoutComments l.entries.reverse, none⟩
    else match l.advance with
      | .error failure => ⟨withoutComments l.settled, some failure⟩
      | .ok next => run fuel next

/-- The tokens of a text; every step but the last takes at least one character. -/
def tokensOf (text : List Char) : TokenList := Lexer.run (text.length + 2) (.ofText text)

end PlanLint
