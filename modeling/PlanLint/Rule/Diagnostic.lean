import PlanLint.Source.Range
import PlanLint.Document.Printed

/-! Findings about a document. -/

namespace PlanLint

/-- An error makes a document invalid, a warning does not. -/
inductive Severity where
  | error
  | warning
deriving DecidableEq, Repr

/-- The name under which findings are reported. -/
def diagnosticSource : String := "helmwave"

/-- A finding about a range of the text. -/
structure Diagnostic where
  range : TextRange
  message : String
  severity : Severity
  source : String := diagnosticSource
deriving DecidableEq, Repr

/-- An error about a range. -/
def errorAt (range : TextRange) (message : String) : Diagnostic := { range, message, severity := .error }

/-- A warning about a range. -/
def warningAt (range : TextRange) (message : String) : Diagnostic := { range, message, severity := .warning }

/-- Whether a finding is an error. -/
def Diagnostic.isError (d : Diagnostic) : Bool := d.severity == .error

/-- Whether a finding is a warning. -/
def Diagnostic.isWarning (d : Diagnostic) : Bool := d.severity == .warning

/-- The findings of a check, unless a value that a message shows cannot be printed. -/
abbrev Findings := Except Unprintable (List Diagnostic)

/-- The findings for each member of a list, one after the other. -/
def gather {α : Type} (find : α → Findings) : List α → Findings
  | [] => .ok []
  | item :: items => do
    let first ← find item
    -- Nothing is found any more once something cannot be shown.
    let rest ← gather find items
    return first ++ rest

end PlanLint
