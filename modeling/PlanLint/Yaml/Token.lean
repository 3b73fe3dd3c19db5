import PlanLint.Document.Value
import PlanLint.Yaml.Mark

/-! The tokens that a text consists of. -/

namespace PlanLint

/-- A tag as it is written: the handle that stands for a known start, if there is one, and the rest. -/
structure TagName where
  handle : Option (List Char)
  suffix : List Char
deriving DecidableEq, Repr

/-- A directive in front of a document. -/
inductive Directive where
  | version (major minor : Nat)
  | handle (name start : List Char)
  | unknown
deriving DecidableEq, Repr

/-- What a token stands for. -/
inductive TokenKind where
  | streamEnd
  | directive (d : Directive)
  | documentStart
  | documentEnd
  | blockSequenceStart
  | blockMappingStart
  | blockEnd
  | flowSequenceStart
  | flowMappingStart
  | flowSequenceEnd
  | flowMappingEnd
  | flowEntry
  | blockEntry
  | key
  /-- The colon of a value, and whether a comment follows on its line. -/
  | value (commented : Bool)
  | alias (name : List Char)
  | anchor (name : List Char)
  | tag (name : TagName)
  | scalar (style : ScalarStyle) (text : List Char)
  | comment
deriving DecidableEq, Repr

/-- A token and where it stands. -/
structure Token where
  kind : TokenKind
  start : Mark
  stop : Mark
deriving DecidableEq, Repr

/-- A kind of token as it is named in a message. -/
def TokenKind.name : TokenKind → String
  | .streamEnd => "<stream end>"
  | .directive _ => "<directive>"
  | .documentStart => "<document start>"
  | .documentEnd => "<document end>"
  | .blockSequenceStart => "<block sequence start>"
  | .blockMappingStart => "<block mapping start>"
  | .blockEnd => "<block end>"
  | .flowSequenceStart => "["
  | .flowMappingStart => "\x7b"
  | .flowSequenceEnd => "]"
  | .flowMappingEnd => "\x7d"
  | .flowEntry => ","
  | .blockEntry => "-"
  | .key => "?"
  | .value _ => ":"
  | .alias _ => "<alias>"
  | .anchor _ => "<anchor>"
  | .tag _ => "<tag>"
  | .scalar _ _ => "<scalar>"
  | .comment => "<comment>"

end PlanLint
