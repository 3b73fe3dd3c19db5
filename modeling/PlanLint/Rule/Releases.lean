import PlanLint.Rule.Field

/-! Rules for releases. -/

namespace PlanLint

/-- A chart is a text, or a mapping with a name. -/
def chartFindings (lines : List Line) (span : Option LineSpan) (anchor : TextRange) (chart : Value) :
    List Diagnostic :=
  match chart with
  -- A chart that is missing is reported with the required fields.
  | .null => []
  | .text _ => []
  | .mapping entries =>
    if (valueUnder entries "name").isMissing then
      let range := match span.bind (locateKeyInSpan lines "chart".toList) with
        | none => anchor
        | some position => position.keyRange
      [errorAt range "Release chart missing required field: name"]
    else []
  | _ => [errorAt (fieldValueRange lines span "chart".toList anchor)
      "Release chart must be a string or an object"]

/-- A field that holds a sequence if it is given. -/
def arrayFindings (lines : List Line) (span : Option LineSpan) (anchor : TextRange)
    (field : String) (value : Value) : List Diagnostic :=
  match value with
  | .null => []
  | .list _ => []
  | _ => [errorAt (fieldValueRange lines span field.toList anchor)
      ("Release " ++ field ++ " must be an array")]

/-- A value is one of a few texts. -/
def Value.isChoice (choices : List String) : Value → Bool
  | .text s => choices.contains s
  | _ => false

/-- A field that holds one of a few choices if it is given. -/
def choiceFindings (lines : List Line) (span : Option LineSpan) (anchor : TextRange)
    (field : String) (choices : List String) (value : Value) : Findings :=
  match value with
  | .null => .ok []
  | value =>
    if value.isChoice choices then .ok []
    else warningShowing (fieldValueRange lines span field.toList anchor)
      ("Invalid " ++ field ++ " '") value ("'. Valid values are: " ++ choicesText choices)

/-- The findings for one release. -/
def releaseFindings (lines : List Line) (span : Option LineSpan) (anchor : TextRange) (index : Nat) :
    Value → Findings
  | .mapping release => do
    -- What cannot be shown ends the check here, although choices are reported last.
    let choices ← gather (fun field : String × List String =>
      choiceFindings lines span anchor field.1 field.2 (valueUnder release field.1)) releaseChoiceFields
    return missingFields release releaseFields "Release" anchor ++
      chartFindings lines span anchor (valueUnder release "chart") ++
      (releaseArrayFields.flatMap fun field => arrayFindings lines span anchor field (valueUnder release field)) ++
      choices
  | _ => notAnObject "Release" index anchor

/-- Every release has a name, a chart and a namespace; its optional fields have the right form. -/
def checkReleases (document : Entries) (lines : List Line) : Findings :=
  sequenceFindings document lines "releases" (releaseFindings lines)

end PlanLint
