import PlanLint.Proofs.Yaml.Token.Lexer
import PlanLint.Yaml.Node.Parser

/-! The parts of a node: what they have to do with the text of the document, and which of them can make reading
break off. -/

namespace PlanLint

/-- A node has a part: itself, or a part of what it consists of. -/
inductive Node.Holds : Node → Node → Prop
  | self (node : Node) : Holds node node
  | item {tag : Tag} {items : List Node} {start : Mark} {item part : Node} (member : item ∈ items)
      (holds : Holds item part) : Holds (.sequence tag items start) part
  | key {tag : Tag} {entries : List (Node × Node)} {start : Mark} {entry : Node × Node} {part : Node}
      (member : entry ∈ entries) (holds : Holds entry.1 part) : Holds (.mapping tag entries start) part
  | value {tag : Tag} {entries : List (Node × Node)} {start : Mark} {entry : Node × Node} {part : Node}
      (member : entry ∈ entries) (holds : Holds entry.2 part) : Holds (.mapping tag entries start) part
  | shared {node part : Node} {value : Outcome Value} (holds : Holds node part) : Holds (.shared node value) part

/-- A part of a part is a part. -/
theorem Node.Holds.trans {node part inner : Node} (holds : node.Holds part) (deeper : part.Holds inner) :
    node.Holds inner := by
  -- Induction on the way to the part; the way inside it is gone at the end.
  induction holds with
  | self => exact deeper
  | item member _ ih => exact .item member (ih deeper)
  | key member _ ih => exact .key member (ih deeper)
  | value member _ ih => exact .value member (ih deeper)
  | shared _ ih => exact .shared (ih deeper)

/-- The key that an item of an ordered map names: the item is a mapping with one entry, and its key stands for
a value. -/
inductive Node.Names (isCurrent : Bool) : Node → Value → Prop
  | mapping {tag : Tag} {key value : Node} {start : Mark} {room : Nat} {name : Value}
      (named : (key.value isCurrent room).result = .ok name) :
      Names isCurrent (.mapping tag [(key, value)] start) name
  | shared {node : Node} {value : Outcome Value} {name : Value} (names : Names isCurrent node name) :
      Names isCurrent (.shared node value) name

/-- Two of the items of an ordered map name the same key. -/
def RepeatsKey (isCurrent : Bool) (items : List Node) : Prop :=
  ∃ before item after, items = before ++ item :: after ∧
    ∃ earlier ∈ before, ∃ name same, earlier.Names isCurrent name ∧ item.Names isCurrent same ∧
      name.sameKey same = true

/-- The parts of a node at which reading breaks off: a scalar that is to be a boolean and is none, and an
ordered map with a key that comes again. -/
inductive Node.BreaksOff (isCurrent : Bool) (root : Node) : Breakdown → Prop
  | unknownBoolean {style : ScalarStyle} {word : List Char} {anchored : Bool} {start : Mark}
      (part : root.Holds (.scalar (.core .bool) style word anchored start))
      (unknown : booleanOf? (smallLetters word) = none) :
      BreaksOff isCurrent root (.unknownBoolean (smallLetters word))
  | repeatedPair {items : List Node} {start : Mark} (part : root.Holds (.sequence (.core .orderedMap) items start))
      (repeats : RepeatsKey isCurrent items) : BreaksOff isCurrent root .repeatedPair

/-- A handle that every document has, or that a directive of a text declares. -/
def IsHandleIn (text : List Char) (handle : List Char × List Char) : Prop :=
  handle ∈ defaultHandles ∨
    ∃ token ∈ (tokensOf text).tokens, token.kind = .directive (.handle handle.1 handle.2)

/-- A tag that is written in a text: one of its tokens names it, under handles of the text. -/
def Tag.IsNamedIn (text : List Char) (tag : Tag) : Prop :=
  ∃ token ∈ (tokensOf text).tokens, ∃ name handles, token.kind = .tag name ∧
    (∀ handle ∈ handles, IsHandleIn text handle) ∧ name.resolve? handles = some tag

/-- A lone exclamation mark is among the tokens of a text. -/
def HoldsLoneMark (text : List Char) : Prop :=
  ∃ token ∈ (tokensOf text).tokens, ∃ name, token.kind = .tag name ∧ name.isPlain = true

/-- A text asks for a boolean where none may be: with the tag for booleans, or with a lone exclamation mark in
front of a word that a newline ends. -/
def AsksForBoolean (text word : List Char) : Prop :=
  Tag.IsNamedIn text (.core .bool) ∨ (HoldsLoneMark text ∧ word.getLast? = some '\n')

/-- A version that a directive of a text names. -/
def IsVersionIn (text : List Char) (version : Nat × Nat) : Prop :=
  version.1 = 1 ∧ HoldsVersion text version.1 version.2 ∧
    ∃ token ∈ (tokensOf text).tokens, token.kind = .directive (.version version.1 version.2)

/-- A breakdown has its cause in a text: the part of its document at which reading breaks off, the directive of
a version, or the escaped code of a character. -/
inductive Breakdown.StandsIn (text : List Char) : Breakdown → Prop
  | unknownBoolean {document : ParsedDocument} {root : Node} {style : ScalarStyle} {word : List Char}
      {anchored : Bool} {start : Mark} (parsed : parseTokens (tokensOf text) = .ok document)
      (whole : document.node = some root) (part : root.Holds (.scalar (.core .bool) style word anchored start))
      (asked : AsksForBoolean text word) (unknown : booleanOf? (smallLetters word) = none) :
      StandsIn text (.unknownBoolean (smallLetters word))
  | repeatedPair {document : ParsedDocument} {root : Node} {items : List Node} {start : Mark}
      (parsed : parseTokens (tokensOf text) = .ok document) (whole : document.node = some root)
      (part : root.Holds (.sequence (.core .orderedMap) items start))
      (asked : Tag.IsNamedIn text (.core .orderedMap)) (repeats : RepeatsKey document.isCurrent items) :
      StandsIn text .repeatedPair
  | unknownVersion {version : Nat × Nat} (named : IsVersionIn text version)
      (other : version ≠ currentVersion ∧ version ≠ firstVersion) :
      StandsIn text (.unknownVersion version.1 version.2)
  | hugeCode (failed : (tokensOf text).failure = some (.breakdown .hugeCode)) (written : HoldsHugeCode text) :
      StandsIn text .hugeCode

/-- A node of a text: its parts start at places of the text, a tag that can make reading break off is written
there, and what is shared has been read as it stands. -/
inductive Node.IsOf (text : List Char) (isCurrent : Bool) : Node → Prop
  | scalar {tag : Tag} {style : ScalarStyle} {word : List Char} {anchored : Bool} {start : Mark}
      (place : start.IsPlaceOf text)
      (asked : tag = .core .bool → (booleanOf? (smallLetters word)).isSome = true ∨ AsksForBoolean text word) :
      IsOf text isCurrent (.scalar tag style word anchored start)
  | sequence {tag : Tag} {items : List Node} {start : Mark} (place : start.IsPlaceOf text)
      (named : tag = .core .orderedMap → tag.IsNamedIn text) (items_of : ∀ item ∈ items, IsOf text isCurrent item) :
      IsOf text isCurrent (.sequence tag items start)
  | mapping {tag : Tag} {entries : List (Node × Node)} {start : Mark} (place : start.IsPlaceOf text)
      (keys_of : ∀ entry ∈ entries, IsOf text isCurrent entry.1)
      (values_of : ∀ entry ∈ entries, IsOf text isCurrent entry.2) : IsOf text isCurrent (.mapping tag entries start)
  | shared {node : Node} (is_of : IsOf text isCurrent node) :
      IsOf text isCurrent (.shared node (node.value isCurrent deepestNesting))
  | enclosing {isDocument : Bool} {kind : NodeKind} {start : Mark} (place : start.IsPlaceOf text) :
      IsOf text isCurrent (.enclosing isDocument kind start)

variable {text : List Char} {isCurrent : Bool}

/-- The parts of a node of a text are nodes of it. -/
theorem Node.IsOf.part {node part : Node} (is_of : node.IsOf text isCurrent) (holds : node.Holds part) :
    part.IsOf text isCurrent := by
  -- Induction on the way to the part, one step of which leaves one constructor of the node.
  induction holds with
  | self => exact is_of
  | item member _ ih =>
    cases is_of with
    | sequence _ _ items_of => exact ih (items_of _ member)
  | key member _ ih =>
    cases is_of with
    | mapping _ keys_of _ => exact ih (keys_of _ member)
  | value member _ ih =>
    cases is_of with
    | mapping _ _ values_of => exact ih (values_of _ member)
  | shared _ ih =>
    cases is_of with
    | shared is_of => exact ih is_of

/-- A node starts at a place of its text. -/
theorem Node.IsOf.start {node : Node} (is_of : node.IsOf text isCurrent) : node.start.IsPlaceOf text := by
  -- A node with an anchor starts where the node itself does.
  induction is_of with
  | scalar place _ => exact place
  | sequence place _ _ _ => exact place
  | mapping place _ _ _ _ => exact place
  | shared _ ih => exact ih
  | enclosing place => exact place

end PlanLint
