import PlanLint.Yaml.Node.Value
import PlanLint.Yaml.Token.Lexer

/-! From tokens to the node that a document consists of. -/

namespace PlanLint

/-- Tokens that are still to be read, and what is known from those before them. -/
structure Parser where
  tokens : List Token
  /-- Why there are no more tokens. -/
  failure : Option ReadError
  handles : Handles
  version : Nat × Nat
  /-- The anchored nodes by name, the latest first. -/
  anchors : List (List Char × Node)

/-- Reading from tokens. -/
abbrev Parse := StateT Parser (Except ReadError)

/-- Whether one version is later than another. -/
def isLater (version other : Nat × Nat) : Bool :=
  other.1 < version.1 || (other.1 == version.1 && other.2 < version.2)

namespace Parser

/-- The next token. -/
def peek : Parse Token := do
  let p ← get
  match p.tokens with
  | token :: _ => return token
  -- What is wrong with the tokens only shows when the tokens before it are used up.
  | [] => throw (p.failure.getD (problemOf .tooDeep))

/-- The next token, which is then behind. -/
def take : Parse Token := do
  let token ← peek
  modify fun p => { p with tokens := p.tokens.drop 1 }
  return token

/-- The tag of a plain scalar, if the version of the document has rules for it. -/
def plainTag (text : List Char) : Parse Tag := do
  let version := (← get).version
  if version == currentVersion || version == firstVersion then
    return .ofPlain (version == firstVersion) text
  else throw (.breakdown (.unknownVersion version.1 version.2))

/-- A scalar without text where a node is left out. -/
def emptyScalar (mark : Mark) : Parse Node := do
  return .scalar (← plainTag []) .plain [] false mark

/-- What stands before the content of a node. -/
structure Properties where
  anchor : Option (List Char)
  tag : Option TagName
  /-- Where the properties start, if there are any. -/
  start : Option Mark
  tagMark : Option Mark

/-- The anchor and the tag of a node, in either order. -/
def readProperties : Parse Properties := do
  let first ← peek
  match first.kind with
  | .anchor anchor =>
    let _ ← take
    let second ← peek
    match second.kind with
    | .tag tag =>
      let _ ← take
      return ⟨some anchor, some tag, some first.start, some second.start⟩
    | _ => return ⟨some anchor, none, some first.start, none⟩
  | .tag tag =>
    let _ ← take
    let second ← peek
    match second.kind with
    | .anchor anchor =>
      let _ ← take
      return ⟨some anchor, some tag, some second.start, some second.start⟩
    | _ => return ⟨none, some tag, some first.start, some first.start⟩
  | _ => return ⟨none, none, none, none⟩

/-- The tag that the properties name, unless they leave it to the content. -/
def givenTag (properties : Properties) (start : Mark) : Parse (Option Tag) := do
  match properties.tag with
  | none => return none
  | some name =>
    match name.resolve? (← get).handles with
    | some tag => return if name.isPlain then none else some tag
    | none =>
      throw (problemWhile .node start (properties.tagMark.getD start) (.undefinedHandle (name.handle.getD [])))

/-- Binds a name to a node. -/
def bindAnchor (name : Option (List Char)) (node : Node) : Parse Unit :=
  match name with
  | none => return ()
  | some name => modify fun p => { p with anchors := (name, node) :: p.anchors }

/-- A complete node, which from now on its anchor names. -/
def complete (anchor : Option (List Char)) (node : Node) : Parse Node := do
  match anchor with
  | none => return node
  | some _ =>
    let isCurrent := (← get).version == currentVersion
    -- What the node stands for is settled once, so it is the same for every alias.
    let node := Node.shared node (node.value isCurrent deepestNesting)
    bindAnchor anchor node
    return node

/-- The node that an alias names. -/
def aliased (name : List Char) (start : Mark) : Parse Node := do
  match (← get).anchors.find? fun entry => entry.1 == name with
  | some entry => return entry.2
  | none => throw (problemAt start (.undefinedAlias name))

/-- A scalar with its properties. -/
def scalarNode (properties : Properties) (tag : Option Tag) (style : ScalarStyle) (text : List Char)
    (start : Mark) : Parse Node := do
  let asksForPlain := properties.tag.any (·.isPlain)
  let tag ← match tag with
    | some tag => pure tag
    -- Only a plain scalar, or one under a lone exclamation mark, is taken for what it spells.
    | none => if style == .plain || asksForPlain then plainTag text else pure (.core .str)
  complete properties.anchor (.scalar tag style text properties.anchor.isSome start)

/-- Where a node may stand. -/
structure NodePlace where
  /-- Block collections are allowed. -/
  block : Bool
  /-- Items may start at the column of the key above them. -/
  indentless : Bool
  /-- The node is the whole document. -/
  isDocument : Bool

/-- The node that is a whole document. -/
def documentPlace : NodePlace := ⟨true, false, true⟩

/-- A node inside brackets. -/
def flowPlace : NodePlace := ⟨false, false, false⟩

/-- An item of a block sequence. -/
def itemPlace : NodePlace := ⟨true, false, false⟩

/-- A key or a value of a block mapping. -/
def entryPlace : NodePlace := ⟨true, true, false⟩

/-- Whether the mark of an item, of a key or of a value follows, or the end of a block. -/
def startsEntry : TokenKind → Bool
  | .key => true
  | .value _ => true
  | .blockEnd => true
  | _ => false

/-- A block in which something else than its next part was found. -/
def unexpected (activity : Activity) (opened : Mark) (token : Token) (reason : TokenKind → Reason) :
    ReadError := problemWhile activity opened token.start (reason token.kind)

/-- The sequence or mapping that properties belong to, bound to its anchor while it is open. -/
def openCollection (properties : Properties) (place : NodePlace) (kind : NodeKind) (start : Mark) :
    Parse Unit :=
  bindAnchor properties.anchor (.enclosing place.isDocument kind start)

mutual
/-- A node with its properties, or an alias. -/
def readNode : Nat → NodePlace → Parse Node
  | 0, _ => throw (problemOf .tooDeep)
  | fuel + 1, place => do
    let first ← peek
    match first.kind with
    | .alias name =>
      let _ ← take
      aliased name first.start
    | _ =>
      let properties ← readProperties
      let token ← peek
      let start := properties.start.getD token.start
      let tag ← givenTag properties start
      let sequence (items : Parse (List Node)) : Parse Node := do
        openCollection properties place .sequence start
        complete properties.anchor (.sequence (tag.getD (.core .seq)) (← items) start)
      let mapping (entries : Parse (List (Node × Node))) : Parse Node := do
        openCollection properties place .mapping start
        complete properties.anchor (.mapping (tag.getD (.core .map)) (← entries) start)
      match token.kind, place.block, place.indentless with
      -- Dashes at the column of a key come without a token that opens their sequence.
      | .blockEntry, _, true => sequence (readIndentlessItems fuel)
      | .scalar style text, _, _ =>
        let _ ← take
        scalarNode properties tag style text start
      | .flowSequenceStart, _, _ =>
        sequence do
          let _ ← take
          readFlowItems fuel token.start true
      | .flowMappingStart, _, _ =>
        mapping do
          let _ ← take
          readFlowEntries fuel token.start true
      | .blockSequenceStart, true, _ =>
        sequence do
          let _ ← take
          readBlockItems fuel token.start
      | .blockMappingStart, true, _ =>
        mapping do
          let _ ← take
          readBlockEntries fuel token.start
      | _, _, _ =>
        -- A node may consist of nothing but its properties.
        if properties.start.isSome then scalarNode properties tag .plain [] start
        else
          throw (unexpected (if place.block then .blockNode else .flowNode) start token .expectedContent)

/-- The items of a block sequence, up to its end. -/
def readBlockItems : Nat → Mark → Parse (List Node)
  | 0, _ => throw (problemOf .tooDeep)
  | fuel + 1, opened => do
    let token ← take
    match token.kind with
    | .blockEntry =>
      let next ← peek
      -- A dash with nothing behind it is an item without text.
      let item ← if next.kind == .blockEntry || next.kind == .blockEnd then emptyScalar token.stop
        else readNode fuel itemPlace
      return item :: (← readBlockItems fuel opened)
    | .blockEnd => return []
    | _ => throw (unexpected .blockSequence opened token .expectedBlockEnd)

/-- The items of a sequence at the column of the key above it, as far as there are any. -/
def readIndentlessItems : Nat → Parse (List Node)
  | 0 => throw (problemOf .tooDeep)
  | fuel + 1 => do
    let token ← peek
    if token.kind == .blockEntry then
      let _ ← take
      let next ← peek
      let item ← if next.kind == .blockEntry || startsEntry next.kind then emptyScalar token.stop
        else readNode fuel itemPlace
      return item :: (← readIndentlessItems fuel)
    else return []

/-- The entries of a block mapping, up to its end. -/
def readBlockEntries : Nat → Mark → Parse (List (Node × Node))
  | 0, _ => throw (problemOf .tooDeep)
  | fuel + 1, opened => do
    let token ← peek
    match token.kind with
    | .key =>
      let _ ← take
      let next ← peek
      let key ← if startsEntry next.kind then emptyScalar token.stop else readNode fuel entryPlace
      let value ← readBlockValue fuel
      return (key, value) :: (← readBlockEntries fuel opened)
    -- A colon without a key before it: later versions take the key for empty.
    | .value _ =>
      if isLater (← get).version firstVersion then
        let key ← emptyScalar token.start
        let value ← readBlockValue fuel
        return (key, value) :: (← readBlockEntries fuel opened)
      else throw (unexpected .blockMapping opened token .expectedBlockEnd)
    | .blockEnd =>
      let _ ← take
      return []
    | _ => throw (unexpected .blockMapping opened token .expectedBlockEnd)

/-- The value of a block entry, which may be left out together with its colon. -/
def readBlockValue : Nat → Parse Node
  | 0 => throw (problemOf .tooDeep)
  | fuel + 1 => do
    let token ← peek
    match token.kind with
    | .value commented =>
      let _ ← take
      let next ← peek
      if startsEntry next.kind then
        -- A comment behind the colon stays with it when a key follows.
        emptyScalar (if commented && next.kind == .key then token.stop else next.stop)
      else readNode fuel entryPlace
    | _ => emptyScalar token.start

/-- The items of a flow sequence, up to its end. -/
def readFlowItems : Nat → Mark → Bool → Parse (List Node)
  | 0, _, _ => throw (problemOf .tooDeep)
  | fuel + 1, opened, isFirst => do
    let token ← peek
    if token.kind == .flowSequenceEnd then
      let _ ← take
      return []
    -- A comma stands between two items, and may stand behind the last.
    if !isFirst then
      if token.kind == .flowEntry then let _ ← take
      else throw (unexpected .flowSequence opened token .expectedSequenceMark)
    let token ← peek
    match token.kind with
    -- An entry without braces is a mapping of its own.
    | .key =>
      let item ← readFlowPair fuel
      return item :: (← readFlowItems fuel opened false)
    | .flowSequenceEnd =>
      let _ ← take
      return []
    | _ =>
      let item ← readNode fuel flowPlace
      return item :: (← readFlowItems fuel opened false)

/-- A single entry as an item of a flow sequence. -/
def readFlowPair : Nat → Parse Node
  | 0 => throw (problemOf .tooDeep)
  | fuel + 1 => do
    let mark ← take
    let next ← peek
    let key ← if endsFlowItem next.kind then emptyScalar mark.stop else readNode fuel flowPlace
    let token ← peek
    let value ← match token.kind with
      | .value _ => do
        let _ ← take
        let next ← peek
        if next.kind == .flowEntry || next.kind == .flowSequenceEnd then emptyScalar token.stop
        else readNode fuel flowPlace
      | _ => emptyScalar token.start
    return .mapping (.core .map) [(key, value)] mark.start
where
  /-- Whether a key is left out before a token. -/
  endsFlowItem : TokenKind → Bool
    | .value _ => true
    | .flowEntry => true
    | .flowSequenceEnd => true
    | _ => false

/-- The entries of a flow mapping, up to its end. -/
def readFlowEntries : Nat → Mark → Bool → Parse (List (Node × Node))
  | 0, _, _ => throw (problemOf .tooDeep)
  | fuel + 1, opened, isFirst => do
    let token ← peek
    if token.kind == .flowMappingEnd then
      let _ ← take
      return []
    -- As in a sequence, a comma may stand behind the last entry.
    if !isFirst then
      if token.kind == .flowEntry then let _ ← take
      else throw (unexpected .flowMapping opened token .expectedMappingMark)
    let token ← peek
    match token.kind with
    | .key =>
      let _ ← take
      let next ← peek
      let key ← if endsFlowKey next.kind then emptyScalar token.stop else readNode fuel flowPlace
      let value ← readFlowValue fuel
      return (key, value) :: (← readFlowEntries fuel opened false)
    | .flowMappingEnd =>
      let _ ← take
      return []
    | kind =>
      let isValue := match kind with
        | .value _ => true
        | _ => false
      if isValue && isLater (← get).version firstVersion then
        let key ← emptyScalar token.stop
        let value ← readFlowValue fuel
        return (key, value) :: (← readFlowEntries fuel opened false)
      else
        -- Without a colon the value is empty.
        let key ← readNode fuel flowPlace
        let value ← emptyScalar (← peek).start
        return (key, value) :: (← readFlowEntries fuel opened false)
where
  /-- Whether a key is left out before a token. -/
  endsFlowKey : TokenKind → Bool
    | .value _ => true
    | .flowEntry => true
    | .flowMappingEnd => true
    | _ => false

/-- The value of a flow entry, which may be left out together with its colon. -/
def readFlowValue : Nat → Parse Node
  | 0 => throw (problemOf .tooDeep)
  | fuel + 1 => do
    let token ← peek
    match token.kind with
    | .value _ =>
      let _ ← take
      let next ← peek
      if next.kind == .flowEntry || next.kind == .flowMappingEnd then emptyScalar token.stop
      else readNode fuel flowPlace
    | _ => emptyScalar token.start
end

/-- A node; each step that reads one or an entry of one takes a token within a few others. -/
def readWholeNode (place : NodePlace) : Parse Node := do
  readNode (4 * (← get).tokens.length + 16) place

/-- The directives in front of a document, as far as they follow. -/
def readDirectives : Nat → Option (Nat × Nat) → Handles → Parse (Option (Nat × Nat) × Handles)
  | 0, version, handles => return (version, handles)
  | fuel + 1, version, handles => do
    let token ← peek
    match token.kind with
    | .directive d =>
      let _ ← take
      match d with
      | .version major minor =>
        -- A document may name its version once, and the first number of it has to be one.
        if version.isSome then throw (problemAt token.start .repeatedVersion)
        if major != 1 then throw (problemAt token.start .foreignVersion)
        readDirectives fuel (some (major, minor)) handles
      | .handle name start =>
        if (handleStart? handles name).isSome then throw (problemAt token.start (.repeatedHandle name))
        readDirectives fuel version ((name, start) :: handles)
      | .unknown => readDirectives fuel version handles
    | _ => return (version, handles)

/-- The place behind any number of end markers. -/
def skipEnds : Nat → Parse Unit
  | 0 => return ()
  | fuel + 1 => do
    if (← peek).kind == .documentEnd then
      let _ ← take
      skipEnds fuel

/-- The marker that starts a document, behind end markers and directives; none at the end of the text. -/
def readDocumentStart : Parse (Option Token) := do
  skipEnds (← get).tokens.length
  if (← peek).kind == .streamEnd then return none
  let (version, handles) ← readDirectives (← get).tokens.length none []
  modify fun p => { p with version := version.getD p.version, handles := handles ++ defaultHandles }
  let token ← peek
  if token.kind != .documentStart then throw (problemAt token.start (.expectedDocumentStart token.kind))
  let _ ← take
  return some token

/-- Whether a document has no content of its own before a token. -/
def endsDocument : TokenKind → Bool
  | .directive _ => true
  | .documentStart => true
  | .documentEnd => true
  | .streamEnd => true
  | _ => false

/-- The first document of a text, if there is one. -/
def readDocument : Parse (Option Node) := do
  match (← peek).kind with
  | .directive _ | .documentStart | .streamEnd =>
    match ← readDocumentStart with
    | none => return none
    | some _ =>
      let next ← peek
      if endsDocument next.kind then return some (← emptyScalar next.start)
      else return some (← readWholeNode documentPlace)
  | _ => return some (← readWholeNode documentPlace)

/-- The end of a document, and whether a marker stands there; nothing may follow it on its line. -/
def readDocumentEnd : Parse Bool := do
  let token ← peek
  if token.kind == .documentEnd then
    let _ ← take
    let next ← peek
    if next.kind != .streamEnd && next.start.line == token.start.line then
      throw (problemAt next.start (.contentBehindDocument next.kind))
    return true
  else return false

/-- Where another document starts, if there is one. -/
def nextDocument (isMarked : Bool) : Parse (Option Mark) := do
  let token ← peek
  -- Behind a marker later versions allow a document without one of its own.
  let isOpen := isMarked && (← get).version != firstVersion
  match isOpen, token.kind with
  | true, .directive _ | true, .documentStart | true, .streamEnd | false, _ =>
    return (← readDocumentStart).map (·.start)
  | true, _ => return some token.start

/-- The only document of a text, if there is one. -/
def readOnlyDocument : Parse (Option Node) := do
  match ← readDocument with
  | none => return none
  | some root =>
    let isMarked ← readDocumentEnd
    match ← nextDocument isMarked with
    | none => return some root
    | some mark => throw (problemWhile .document root.start mark .anotherDocument)

end Parser

/-- A document that has been read: its node and whether the current version's rules hold for it. -/
structure ParsedDocument where
  node : Option Node
  isCurrent : Bool

/-- The document that tokens make up. -/
def parseTokens (list : TokenList) : Except ReadError ParsedDocument := do
  let start : Parser := ⟨list.tokens, list.failure, defaultHandles, currentVersion, []⟩
  let (node, p) ← Parser.readOnlyDocument.run start
  return ⟨node, p.version == currentVersion⟩

end PlanLint
