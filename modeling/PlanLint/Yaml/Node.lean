import PlanLint.Yaml.Outcome
import PlanLint.Yaml.Tag

/-! The nodes of a document, as its text lays them out. -/

namespace PlanLint

/-- A node of a document. -/
inductive Node where
  | scalar (tag : Tag) (style : ScalarStyle) (text : List Char) (anchored : Bool) (start : Mark)
  | sequence (tag : Tag) (items : List Node) (start : Mark)
  | mapping (tag : Tag) (entries : List (Node × Node)) (start : Mark)
  /-- A node with an anchor, together with what it stands for; wherever an alias names it, it is this
  node again. -/
  | shared (node : Node) (value : Outcome Value)
  /-- An alias of a collection inside that very collection, which may be the whole document. -/
  | enclosing (isDocument : Bool) (kind : NodeKind) (start : Mark)

/-- The kind of a node. -/
def Node.kind : Node → NodeKind
  | .scalar _ _ _ _ _ => .scalar
  | .sequence _ _ _ => .sequence
  | .mapping _ _ _ => .mapping
  | .shared node _ => node.kind
  | .enclosing _ kind _ => kind

/-- Where a node starts. -/
def Node.start : Node → Mark
  | .scalar _ _ _ _ start => start
  | .sequence _ _ start => start
  | .mapping _ _ start => start
  | .shared node _ => node.start
  | .enclosing _ _ start => start

/-- The tag of a node, if it has one of its own. -/
def Node.tag? : Node → Option Tag
  | .scalar tag _ _ _ _ => some tag
  | .sequence tag _ _ => some tag
  | .mapping tag _ _ => some tag
  | .shared node _ => node.tag?
  | .enclosing _ _ _ => none

/-- The items of a sequence. -/
def Node.items : Node → List Node
  | .sequence _ items _ => items
  | .shared node _ => node.items
  | _ => []

/-- The entries of a mapping. -/
def Node.entries : Node → List (Node × Node)
  | .mapping _ entries _ => entries
  | .shared node _ => node.entries
  | _ => []

/-- The parts of a node as they are named together in a message. -/
def shownParts (kind : String) (tag : Tag) (value : String) : String :=
  kind ++ "(tag=" ++ quoted (String.ofList tag.name) ++ ", value=" ++ value ++ ")"

/-- Some texts in brackets. -/
def bracketed (texts : List String) : String := "[" ++ ", ".intercalate texts ++ "]"

mutual
/-- A node as it is named in a message: its tag and what it consists of. -/
def Node.shown : Node → String
  | .scalar tag _ text _ _ => shownParts "ScalarNode" tag (quoted (String.ofList text))
  | .sequence tag items _ => shownParts "SequenceNode" tag (bracketed (shownItems items))
  | .mapping tag entries _ => shownParts "MappingNode" tag (bracketed (shownEntries entries))
  | .shared node _ => node.shown
  | .enclosing _ _ _ => ""

/-- The items of a sequence as they are named in a message. -/
def shownItems : List Node → List String
  | [] => []
  | item :: items => item.shown :: shownItems items

/-- The entries of a mapping as they are named in a message. -/
def shownEntries : List (Node × Node) → List String
  | [] => []
  | (key, value) :: entries => ("(" ++ key.shown ++ ", " ++ value.shown ++ ")") :: shownEntries entries
end

end PlanLint
