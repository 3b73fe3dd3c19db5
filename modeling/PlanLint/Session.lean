import PlanLint.Validation

/-! Validating a text again and again while it is edited. -/

namespace PlanLint

/-- Lines that take the place of some others. -/
structure LineEdit where
  /-- The number of lines before the change. -/
  start : Nat
  deleted : Nat
  inserted : List Line
deriving DecidableEq, Repr

/-- The lines after an edit; it takes away no more lines than there are. -/
def LineEdit.apply (edit : LineEdit) (lines : List Line) : List Line :=
  lines.take edit.start ++ edit.inserted ++ lines.drop (edit.start + edit.deleted)

/-- Lines with newlines between them. -/
def joinLines (lines : List Line) : List Char := ['\n'].intercalate lines

/-- The results after each of some edits. -/
def validateEdits (allowsRepeated : Bool) :
    List Line → List LineEdit → List (Except Interruption ValidationResult)
  | _, [] => []
  | lines, edit :: edits =>
    let lines := edit.apply lines
    validate (joinLines lines) allowsRepeated :: validateEdits allowsRepeated lines edits

/-- The results for a text and after each of some edits to its lines. -/
def validateSession (text : List Char) (allowsRepeated : Bool) (edits : List LineEdit) :
    List (Except Interruption ValidationResult) :=
  -- These lines keep their carriage returns, unlike those that the rules look at.
  let lines := piecesBetween '\n' text
  validate (joinLines lines) allowsRepeated :: validateEdits allowsRepeated lines edits

end PlanLint
