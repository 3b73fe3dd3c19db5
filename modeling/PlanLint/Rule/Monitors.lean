import PlanLint.Rule.Releases

/-! Rules for monitors and for the block that belongs to their type. -/

namespace PlanLint

/-- An integer in the range of HTTP status codes. -/
def Value.isStatusCode : Value → Bool
  | .int n => leastStatusCode ≤ n && n ≤ greatestStatusCode
  | _ => false

/-- The range of one expected code: its own line in a block sequence, the whole value otherwise. -/
def codeRange (lines : List Line) (header : Option KeyPosition) (fallback : TextRange) (index : Nat) :
    TextRange :=
  match header with
  | none => fallback
  | some position => ((blockItemAnchor lines position index).getD position).valueRange

/-- Each expected code must be a status code. -/
def codeFindings (lines : List Line) (span : Option LineSpan) (fallback : TextRange)
    (codes : List Value) : Findings :=
  let header := span.bind (locateKeyInSpanUnder lines "expected_codes".toList "http".toList)
  gather (fun code : Value × Nat =>
    if code.1.isStatusCode then .ok []
    else warningShowing (codeRange lines header fallback code.2) "Invalid HTTP status code '" code.1
      ("' in expected_codes. Expected an integer between " ++ signedText leastStatusCode ++ " and " ++
        signedText greatestStatusCode)) codes.zipIdx

/-- The method of an HTTP monitor must be a known one. -/
def methodFindings (lines : List Line) (span : Option LineSpan) (anchor : TextRange) (method : Value) :
    Findings :=
  match method with
  | .null => .ok []
  | method =>
    if method.isChoice httpMethods then .ok []
    else warningShowing (nestedValueRange lines span "method".toList "http".toList anchor)
      "Invalid HTTP method '" method ("'. Valid methods are: " ++ choicesText httpMethods)

/-- The expected codes must be a sequence of status codes. -/
def expectedCodesFindings (lines : List Line) (span : Option LineSpan) (anchor : TextRange)
    (codes : Value) : Findings :=
  let range := nestedValueRange lines span "expected_codes".toList "http".toList anchor
  match codes with
  | .null => .ok []
  | .list codes => codeFindings lines span range codes
  | _ => .ok [errorAt range "expected_codes must be an array"]

/-- The findings for the entries of an HTTP block. -/
def httpFindings (lines : List Line) (span : Option LineSpan) (anchor : TextRange) (http : Entries) :
    Findings := do
  -- What cannot be shown ends the check here, but the missing fields are reported first.
  let method ← methodFindings lines span anchor (valueUnder http "method")
  let codes ← expectedCodesFindings lines span anchor (valueUnder http "expected_codes")
  return missingFields http httpMonitorFields "HTTP monitor" anchor ++ method ++ codes

/-- The block of an HTTP monitor; an absent one counts as empty. -/
def httpBlockFindings (lines : List Line) (span : Option LineSpan) (anchor : TextRange) :
    Value → Findings
  | .null => httpFindings lines span anchor []
  | .mapping http => httpFindings lines span anchor http
  | _ => .ok [errorAt (fieldValueRange lines span "http".toList anchor) "Monitor http must be an object"]

/-- The block of a Prometheus monitor; an absent one counts as empty. -/
def prometheusBlockFindings (lines : List Line) (span : Option LineSpan) (anchor : TextRange) :
    Value → Findings
  | .null => .ok (missingFields [] prometheusMonitorFields "Prometheus monitor" anchor)
  | .mapping prometheus =>
    .ok (missingFields prometheus prometheusMonitorFields "Prometheus monitor" anchor)
  | _ => .ok [errorAt (fieldValueRange lines span "prometheus".toList anchor)
      "Monitor prometheus must be an object"]

/-- The type of a monitor selects the block that is looked at. -/
def typeFindings (lines : List Line) (span : Option LineSpan) (anchor : TextRange) (monitor : Entries) :
    Findings :=
  let type := valueUnder monitor "type"
  -- A missing type was reported with the required fields.
  if type.isMissing then .ok []
  else if type.isName "http" then httpBlockFindings lines span anchor (valueUnder monitor "http")
  else if type.isName "prometheus" then
    prometheusBlockFindings lines span anchor (valueUnder monitor "prometheus")
  else warningShowing (fieldValueRange lines span "type".toList anchor)
    "Invalid monitor type '" type ("'. Valid types are: " ++ choicesText monitorTypes)

/-- The findings for one monitor. -/
def monitorFindings (lines : List Line) (span : Option LineSpan) (anchor : TextRange) (index : Nat) :
    Value → Findings
  | .mapping monitor => do
    let byType ← typeFindings lines span anchor monitor
    return missingFields monitor monitorFields "Monitor" anchor ++ byType
  | _ => notAnObject "Monitor" index anchor

/-- Every monitor has a name and a known type, and the block of its type is complete. -/
def checkMonitors (document : Entries) (lines : List Line) : Findings :=
  sequenceFindings document lines "monitors" (monitorFindings lines)

end PlanLint
