import PlanLint.Rule.Field

/-! Rules for the top level: the project, the version and the keys. -/

namespace PlanLint

/-- The project must be named. -/
def checkProject (document : Entries) (lines : List Line) : Findings :=
  if !(valueUnder document "project").isMissing then .ok []
  else
    let range := match locateKey lines "project".toList with
      | none => documentStartRange lines
      -- An empty value has no width to point at, so the key is taken.
      | some position =>
        if position.valueStart < position.valueEnd then position.valueRange else position.keyRange
    .ok [errorAt range "Missing required field: project"]

/-- A version, if there is one, must start with a version number. -/
def checkVersion (document : Entries) (lines : List Line) : Findings :=
  match valueUnder document "version" with
  | .null => .ok []
  | version => do
    -- What is no text is shown first, so a number is checked by its digits.
    let shown ← version.shown
    if (matchVersion shown.toList).isSome then return []
    let range := match locateKey lines "version".toList with
      | none => documentStartRange lines
      | some position => position.valueRange
    return [warningAt range
      "Invalid version format. Expected semver with optional operator (e.g., \">=0.30.0\")"]

/-- Whether a key's text is that of a key of the top level. -/
def unknownKeyFindings (lines : List Line) (key : Value) : Findings := do
  -- A key that is no text is compared, and looked up, as it is shown.
  let name ← key.shown
  if topLevelKeys.contains name then return []
  let range := match locateKey lines name.toList with
    | none => documentStartRange lines
    | some position => position.keyRange
  return [warningAt range
    ("Unknown top-level key: '" ++ name ++ "'. Valid keys are: " ++ choicesText topLevelKeys)]

/-- Each key of the top level must be a known one. -/
def checkUnknownKeys (document : Entries) (lines : List Line) : Findings :=
  gather (fun entry => unknownKeyFindings lines entry.1) document

end PlanLint
