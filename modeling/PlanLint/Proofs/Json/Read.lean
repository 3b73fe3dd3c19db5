import PlanLint.Proofs.Json.Spelling

/-! Strings that are written as JSON read back as themselves. -/

namespace PlanLint

end PlanLint
