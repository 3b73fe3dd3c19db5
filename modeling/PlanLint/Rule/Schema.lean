import PlanLint.Text.Digit
import PlanLint.Text.Blank

/-! The keys and the fixed choices of a plan file. -/

namespace PlanLint

/-- The keys of the top level. -/
def topLevelKeys : List String :=
  ["project", "version", "repositories", "registries", "releases", "monitors", "lifecycle"]

/-- The hooks of the lifecycle section. -/
def lifecycleHooks : List String :=
  ["pre_up", "post_up", "pre_down", "post_down", "pre_build", "post_build", "pre_rollback", "post_rollback"]

/-- The types of monitors. -/
def monitorTypes : List String := ["http", "prometheus"]

/-- The methods of an HTTP monitor. -/
def httpMethods : List String := ["GET", "POST", "PUT", "DELETE"]

/-- What to do about a release that is still pending. -/
def pendingReleaseStrategies : List String := ["rollback", "uninstall"]

/-- How a deletion reaches dependent objects. -/
def deletionPropagations : List String := ["background", "foreground", "orphan"]

/-- The least HTTP status code. -/
def leastStatusCode : Int := 100

/-- The greatest HTTP status code. -/
def greatestStatusCode : Int := 599

/-- The fields that a repository must have. -/
def repositoryFields : List String := ["name", "url"]

/-- The fields that a registry must have. -/
def registryFields : List String := ["host"]

/-- The fields that a release must have. -/
def releaseFields : List String := ["name", "chart", "namespace"]

/-- The fields that a monitor must have. -/
def monitorFields : List String := ["name", "type"]

/-- The fields that the HTTP part of a monitor must have. -/
def httpMonitorFields : List String := ["url", "expected_codes"]

/-- The fields that the Prometheus part of a monitor must have. -/
def prometheusMonitorFields : List String := ["url", "expr"]

/-- The fields of a release that hold sequences. -/
def releaseArrayFields : List String := ["values", "depends_on", "tags", "monitors"]

/-- The fields of a release that hold one of a few choices. -/
def releaseChoiceFields : List (String × List String) :=
  [("pending_release_strategy", pendingReleaseStrategies), ("deletion_propagation", deletionPropagations)]

/-- Choices as they are listed in a message. -/
def choicesText (choices : List String) : String := ", ".intercalate choices

/-- The pattern of versions, as it is published: an optional comparator, then two or three numbers. -/
def versionPattern : String := "^(>=|>|<=|<|=)?\\s*\\d+\\.\\d+(\\.\\d+)?"

/-- How a text starts with a version. -/
structure VersionMatch where
  /-- The number of characters that belong to the version. -/
  length : Nat
  comparator : Option (List Char)
  /-- The third number with the dot before it. -/
  patch : Option (List Char)
deriving DecidableEq, Repr

/-- The comparator that a text starts with, the longest one. -/
def leadingComparator : List Char → List Char
  | '>' :: '=' :: _ => ['>', '=']
  | '>' :: _ => ['>']
  | '<' :: '=' :: _ => ['<', '=']
  | '<' :: _ => ['<']
  | '=' :: _ => ['=']
  | _ => []

/-- The third number of a version, with the dot before it, if the text starts with one. -/
def leadingPatch : List Char → List Char
  | '.' :: rest =>
    match rest.takeWhile isDecimalDigit with
    | [] => []
    | digits => '.' :: digits
  | _ => []

/-- A text without a comparator as an optional value. -/
def nonEmpty? (text : List Char) : Option (List Char) := if text.isEmpty then none else some text

/-- The version that a text starts with: a comparator or none, blanks, and two or three numbers with
dots between them. -/
def matchVersion (text : List Char) : Option VersionMatch :=
  let comparator := leadingComparator text
  let numbers := trimStart (text.drop comparator.length)
  let major := numbers.takeWhile isDecimalDigit
  match major, numbers.drop major.length with
  | _ :: _, '.' :: rest =>
    let minor := rest.takeWhile isDecimalDigit
    if minor.isEmpty then none
    else
      let patch := leadingPatch (rest.drop minor.length)
      -- What is in front of the numbers are the comparator and the blanks.
      let before := text.length - numbers.length
      some ⟨before + major.length + 1 + minor.length + patch.length, nonEmpty? comparator, nonEmpty? patch⟩
  | _, _ => none

end PlanLint
