import PlanLint.Rule.Document
import PlanLint.Proofs.Document.Printed

/-! The values that the rules show in their messages. Nothing else can keep a document from being checked. -/

namespace PlanLint

variable {cause : Unprintable} {lines : List Line}

/-- A later step of a check breaks off, or the step before it did. -/
theorem bind_eq_error {α β : Type} {first : Except Unprintable α} {next : α → Except Unprintable β}
    (broken : (first >>= next) = .error cause) :
    first = .error cause ∨ ∃ a, first = .ok a ∧ next a = .error cause := by
  -- Only a first step that came to something has a step behind it.
  cases first with
  | error found =>
    obtain rfl := Except.error.inj broken
    exact .inl rfl
  | ok a => exact .inr ⟨a, rfl, broken⟩

/-- Where every later step goes through, it is the step before it that breaks off. -/
theorem bind_ok_eq_error {α β : Type} {first : Except Unprintable α} {next : α → Except Unprintable β}
    (goes_on : ∀ a, ∃ b, next a = .ok b) (broken : (first >>= next) = .error cause) : first = .error cause := by
  -- The other possibility is that a later step breaks off.
  rcases bind_eq_error broken with stopped | ⟨a, -, later⟩
  · exact stopped
  · obtain ⟨b, through⟩ := goes_on a
    exact absurd (through.symm.trans later) (by simp)

/-- What only makes something of a result breaks off where that does. -/
theorem bind_pure_eq_error {α β : Type} {first : Except Unprintable α} {make : α → β}
    (broken : (do return make (← first)) = Except.error cause) : first = .error cause :=
  bind_ok_eq_error (fun a => ⟨make a, rfl⟩) broken

/-- Gathering breaks off where one of the items does. -/
theorem gather_eq_error {α : Type} {find : α → Findings} {items : List α}
    (broken : gather find items = .error cause) : ∃ item ∈ items, find item = .error cause := by
  -- Induction on the items: the first breaks off, or one behind it.
  induction items with
  | nil => simp [gather] at broken
  | cons item items ih =>
    rw [gather] at broken
    rcases bind_eq_error broken with first | ⟨_, -, rest⟩
    · exact ⟨item, List.mem_cons_self, first⟩
    · obtain ⟨found, member, there⟩ := ih (bind_pure_eq_error rest)
      exact ⟨found, List.mem_cons_of_mem _ member, there⟩

end PlanLint
