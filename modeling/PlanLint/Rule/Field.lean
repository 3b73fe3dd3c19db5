import PlanLint.Rule.Diagnostic
import PlanLint.Rule.Schema

/-! What the rules for the sections have in common. -/

namespace PlanLint

/-- One error for each required field that an entry lacks. -/
def missingFields (entry : Entries) (fields : List String) (label : String) (anchor : TextRange) :
    List Diagnostic :=
  (fields.filter fun field => (valueUnder entry field).isMissing).map fun field =>
    errorAt anchor (label ++ " missing required field: " ++ field)

/-- Exactly one of the user name and the password is given. -/
def hasPartialAuth (entry : Entries) : Bool :=
  (valueUnder entry "username").isMissing != (valueUnder entry "password").isMissing

/-- The findings of a section that is a sequence: nothing for an absent or null section, one error
for anything but a sequence, and otherwise those of its items in order. -/
def sequenceFindings (document : Entries) (lines : List Line) (key : String)
    (find : Option LineSpan → TextRange → Nat → Value → Findings) : Findings :=
  match valueUnder document key with
  | .null => .ok []
  | .list items =>
    -- Items and spans belong together by their numbers; an item too many has no span.
    let spans := itemSpans lines key.toList
    gather (fun item : Value × Nat =>
      let span := spans[item.2]?
      find span (itemRange lines span key.toList) item.2 item.1) items.zipIdx
  | _ => .ok [errorAt (sectionValueRange lines key.toList) (key ++ " must be an array")]

/-- One error for an item that is not a mapping. -/
def notAnObject (label : String) (index : Nat) (anchor : TextRange) : Findings :=
  .ok [errorAt anchor (label ++ " " ++ decimalText index ++ " must be an object")]

/-- A warning that shows a value. -/
def warningShowing (range : TextRange) (before : String) (value : Value) (after : String) : Findings := do
  let shown ← value.shown
  return [warningAt range (before ++ shown ++ after)]

end PlanLint
