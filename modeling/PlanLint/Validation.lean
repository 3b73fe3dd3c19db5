import PlanLint.Document.Unrolled
import PlanLint.Rule.Document
import PlanLint.Text.Lines
import PlanLint.Yaml.Read

/-! Checking the text of a plan file: first its syntax, then the rules for its document. -/

namespace PlanLint

/-- The outcome of parsing: a document, or the one finding that tells why there is none. -/
structure ParseOutcome where
  document : Option Entries
  diagnostics : List Diagnostic

/-- The number of columns that a syntax error points at, as far as its line has them. -/
def syntaxWidth : Nat := 10

/-- The finding about a text whose document is no mapping. -/
def invalidDocument (lines : List Line) : Diagnostic :=
  errorAt (documentStartRange lines) "Invalid YAML document"

/-- The range of a syntax error: from its place on, within the lines that there are. -/
def syntaxRange (lines : List Line) (position : Position) : TextRange :=
  -- The place may be behind the last line; it then counts for the last line.
  let number := min position.line (lines.length - 1)
  let width := ((lines[number]?).map List.length).getD 0
  .onLine number position.character (max (min (position.character + syntaxWidth) width) position.character)

/-- The finding about a syntax error. -/
def syntaxError (lines : List Line) (problem : Problem) : Diagnostic :=
  errorAt (syntaxRange lines problem.position) ("YAML syntax error: " ++ problem.message)

/-- The outcome without a document. -/
def ParseOutcome.failed (finding : Diagnostic) : ParseOutcome := ⟨none, [finding]⟩

/-- Parses a text into the entries of its document, unless reading breaks off. -/
def parseDocument (text : List Char) (lines : List Line) (allowsRepeated : Bool) :
    Except Breakdown ParseOutcome :=
  if text.all isBlank then .ok (.failed (invalidDocument lines))
  else match (readText text).settle allowsRepeated with
    | .ok (.mapping entries) => .ok ⟨some entries, []⟩
    -- Only a mapping is a plan, so any other document is reported like none.
    | .ok _ => .ok (.failed (invalidDocument lines))
    | .error (.problem problem) => .ok (.failed (syntaxError lines problem))
    -- What no finding tells of breaks the validation off.
    | .error (.breakdown cause) => .error cause

/-- Why a validation ends without a result. -/
inductive Interruption where
  | breakdown (cause : Breakdown)
  | unprintable (cause : Unprintable)
deriving DecidableEq, Repr

/-- The result of a validation. -/
structure ValidationResult where
  valid : Bool
  diagnostics : List Diagnostic
  document : Option Entries

/-- The findings that are errors. -/
def ValidationResult.errors (r : ValidationResult) : List Diagnostic := r.diagnostics.filter (·.isError)

/-- The findings that are warnings. -/
def ValidationResult.warnings (r : ValidationResult) : List Diagnostic :=
  r.diagnostics.filter (·.isWarning)

/-- The levels to which a document that contains itself is spelled out for the rules. No rule looks
deeper. -/
def ruleDepth : Nat := 8

/-- Validates a text: only the syntax finding if there is no document, and otherwise the findings of
all rules. -/
def validate (text : List Char) (allowsRepeated : Bool) : Except Interruption ValidationResult :=
  let lines := splitLines text
  match parseDocument text lines allowsRepeated with
  | .error cause => .error (.breakdown cause)
  | .ok outcome =>
    match outcome.document with
    | none => .ok ⟨false, outcome.diagnostics, none⟩
    | some document =>
      match validateDocument (unrolled document ruleDepth) lines with
      | .error cause => .error (.unprintable cause)
      | .ok diagnostics =>
        -- The document is given out with its inner occurrences spelled out once.
        .ok ⟨!diagnostics.any (·.isError), diagnostics, some (unrolled document 1)⟩

end PlanLint
