import PlanLint.Rule.Field
import PlanLint.Url.Validity

/-! Rules for chart repositories and for registries. -/

namespace PlanLint

/-- The URL of a repository, if it is given, must be well formed. -/
def repositoryUrlFindings (lines : List Line) (span : Option LineSpan) (anchor : TextRange)
    (url : Value) : List Diagnostic :=
  if url.isMissing || isValidUrl url then []
  else
    -- The rest of the line is taken, so that a comment is part of the range.
    let position := span.bind (locateKeyInSpan lines "url".toList)
    let range := (position.bind (lineRemainderRange lines)).getD anchor
    [warningAt range "Invalid repository URL format"]

/-- A user name needs a password and a password a user name. -/
def authFindings (label : String) (entry : Entries) (anchor : TextRange) : List Diagnostic :=
  if hasPartialAuth entry then
    [warningAt anchor (label ++ " authentication requires both username and password")]
  else []

/-- The findings for one repository. -/
def repositoryFindings (lines : List Line) (span : Option LineSpan) (anchor : TextRange) (index : Nat) :
    Value → Findings
  | .mapping repository =>
    .ok (missingFields repository repositoryFields "Repository" anchor ++
      repositoryUrlFindings lines span anchor (valueUnder repository "url") ++
      authFindings "Repository" repository anchor)
  | _ => notAnObject "Repository" index anchor

/-- Every repository has a name and a well-formed URL, and whole credentials if any. -/
def checkRepositories (document : Entries) (lines : List Line) : Findings :=
  sequenceFindings document lines "repositories" (repositoryFindings lines)

/-- The findings for one registry. -/
def registryFindings (anchor : TextRange) (index : Nat) : Value → Findings
  | .mapping registry =>
    .ok (missingFields registry registryFields "Registry" anchor ++
      authFindings "Registry" registry anchor)
  | _ => notAnObject "Registry" index anchor

/-- Every registry has a host, and whole credentials if any. -/
def checkRegistries (document : Entries) (lines : List Line) : Findings :=
  sequenceFindings document lines "registries" fun _ => registryFindings

end PlanLint
