import PlanLint.Document.Time
import PlanLint.Text.Blank

/-! The tree of a parsed document. -/

namespace PlanLint

/-- How a scalar is written. -/
inductive ScalarStyle where
  | plain
  | singleQuoted
  | doubleQuoted
  | literal
  | folded
deriving DecidableEq, Repr

/-- A value of a document. Mappings keep their entries in order. -/
inductive Value where
  | null
  | bool (b : Bool)
  /-- A boolean that carries an anchor; it is printed as a number. -/
  | anchoredBool (b : Bool)
  | int (n : Int)
  | float (x : Float)
  | text (s : String)
  | date (d : Date)
  | timestamp (t : Timestamp)
  | bytes (b : List UInt8)
  /-- A scalar under a tag that names no type known here. -/
  | tagged (tag : String) (style : ScalarStyle) (s : String)
  | list (items : List Value)
  /-- A sequence that cannot change: one used as a key, or a pair. -/
  | tuple (items : List Value)
  | mapping (entries : List (Value × Value))
  /-- A mapping used as a key. -/
  | keyMapping (entries : List (Value × Value))
  | set (items : List Value)
  /-- The whole document, met again inside itself. -/
  | enclosing
deriving Inhabited

/-- The entries of a mapping, in order. -/
abbrev Entries := List (Value × Value)

/-- Whether a key is the string with a name. -/
def Value.isName (name : String) : Value → Bool
  | .text s => s == name
  | _ => false

/-- A value bears a name if it is the text of that name. -/
theorem isName_iff {value : Value} {name : String} : value.isName name = true ↔ value = .text name := by
  -- No value but a text is compared with the name at all.
  cases value <;> simp [Value.isName]

/-- The value under a name; an absent entry reads as null. -/
def valueUnder (entries : Entries) (name : String) : Value :=
  match entries.find? fun entry => entry.1.isName name with
  | some entry => entry.2
  | none => .null

/-- The first entry under a name is the one that counts. -/
theorem valueUnder_cons (entry : Value × Value) (entries : Entries) (name : String) :
    valueUnder (entry :: entries) name = if entry.1.isName name then entry.2 else valueUnder entries name := by
  -- The search ends at the entry or goes on behind it.
  unfold valueUnder
  rw [List.find?_cons]
  cases entry.1.isName name <;> rfl

/-- A field is missing when it is absent, null or a blank string. -/
def Value.isMissing : Value → Bool
  | .null => true
  | .text s => isBlankText s
  | _ => false

end PlanLint
