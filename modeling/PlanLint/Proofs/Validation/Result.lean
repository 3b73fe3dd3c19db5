import PlanLint.Proofs.Rule.Shown
import PlanLint.Proofs.Validation
import PlanLint.Proofs.Yaml.Read

/-! When validating a text comes to a result. Reading passes comments over, so nothing is said here about what
could go wrong in keeping them with the values. -/

namespace PlanLint

/-- Reading breaks off in each of the other ways as well: at an ordered map, a directive or an escape. In quotes, or
without the part at fault, the same texts have a result. -/
example :
    let causeFor := fun text : String => match validate text.toList true with
      | .ok _ => none
      | .error cause => some cause
    causeFor "a: !!omap [b: 1, b: 2]" = some (.breakdown .repeatedPair) ∧
      causeFor "%YAML 1.3\n--- a" = some (.breakdown (.unknownVersion 1 3)) ∧
      causeFor "a: \"\\U80000000\"" = some (.breakdown .hugeCode) ∧
      causeFor "a: '!!omap [b: 1, b: 2]'" = none ∧ causeFor "%YAML 1.2\n--- a" = none := by
  decide +kernel

end PlanLint
