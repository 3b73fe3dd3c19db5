import PlanLint.Rule.Field
import PlanLint.Proofs.Document.Printed

/-! What it takes for a rule to report no error. -/

namespace PlanLint

/-- None of the findings is an error. -/
def ErrorFree (findings : List Diagnostic) : Prop := ∀ finding ∈ findings, finding.severity ≠ .error

theorem errorFree_nil : ErrorFree [] := by simp [ErrorFree]

theorem not_errorFree_errorAt (range : TextRange) (message : String) :
    ¬ ErrorFree [errorAt range message] := by
  -- The list holds an error.
  simp [ErrorFree, errorAt]

theorem errorFree_warningAt (range : TextRange) (message : String) :
    ErrorFree [warningAt range message] := by
  -- The only finding is a warning.
  simp [ErrorFree, warningAt]

theorem errorFree_append {before after : List Diagnostic} :
    ErrorFree (before ++ after) ↔ ErrorFree before ∧ ErrorFree after := by
  -- A list without errors has none in either part.
  simp [ErrorFree, or_imp, forall_and]

theorem errorFree_flatMap {α : Type} {find : α → List Diagnostic} {items : List α} :
    ErrorFree (items.flatMap find) ↔ ∀ item ∈ items, ErrorFree (find item) := by
  simp only [ErrorFree, List.mem_flatMap]
  -- A finding among all of them is one of some item.
  constructor
  · intro free item member finding among
    exact free finding ⟨item, member, among⟩
  · rintro free finding ⟨item, member, among⟩
    exact free item member finding among

/-- A rule has its findings, and they are free of errors exactly under a condition. -/
def Judges (findings : Findings) (condition : Prop) : Prop :=
  ∃ shown, findings = .ok shown ∧ (ErrorFree shown ↔ condition)

/-- Findings that are listed judge what they are free of errors under. -/
theorem judges_ok {shown : List Diagnostic} {condition : Prop} (free : ErrorFree shown ↔ condition) :
    Judges (.ok shown) condition :=
  ⟨shown, rfl, free⟩

/-- Without findings there is no error. -/
theorem judges_nil : Judges (.ok []) True := judges_ok (iff_of_true errorFree_nil trivial)

/-- A single error is one whatever it says. -/
theorem judges_errorAt (range : TextRange) (message : String) :
    Judges (.ok [errorAt range message]) False :=
  judges_ok (iff_of_false (not_errorFree_errorAt range message) not_false)

/-- A single warning is no error. -/
theorem judges_warningAt (range : TextRange) (message : String) :
    Judges (.ok [warningAt range message]) True :=
  judges_ok (iff_of_true (errorFree_warningAt range message) trivial)

/-- A warning that shows a printable value is no error. -/
theorem judges_warningShowing {value : Value} (printable : value.Printable) (range : TextRange)
    (before after : String) : Judges (warningShowing range before value after) True := by
  -- The value can be shown, so that there is a warning and no breaking off.
  obtain ⟨text, shown⟩ := printable.shown_ok
  unfold warningShowing
  rw [shown]
  exact judges_warningAt _ _

/-- One and the same condition may be put in other words. -/
theorem Judges.congr {findings : Findings} {condition other : Prop} (judges : Judges findings condition)
    (same : condition ↔ other) : Judges findings other := by
  -- What is found does not change with the words.
  obtain ⟨shown, found, free⟩ := judges
  exact ⟨shown, found, free.trans same⟩

/-- One run of findings behind another judges both conditions. -/
theorem Judges.join {findings later : Findings} {condition other : Prop}
    (first : Judges findings condition) (second : Judges later other) :
    Judges (do let shown ← findings; let rest ← later; return shown ++ rest) (condition ∧ other) := by
  -- Both runs go through, and what they find is free of errors if both are.
  obtain ⟨shown, rfl, free⟩ := first
  obtain ⟨rest, rfl, others⟩ := second
  exact ⟨shown ++ rest, rfl, errorFree_append.trans (and_congr free others)⟩

/-- The same with findings in front that are there already. -/
theorem Judges.append {before : List Diagnostic} {findings : Findings} {condition other : Prop}
    (free : ErrorFree before ↔ condition) (judges : Judges findings other) :
    Judges (do let shown ← findings; return before ++ shown) (condition ∧ other) :=
  (judges_ok free).join judges

/-- What is gathered from all members of a list judges what it takes of each of them. -/
theorem judges_gather {α : Type} {find : α → Findings} {condition : α → Prop} {items : List α}
    (each : ∀ item ∈ items, Judges (find item) (condition item)) :
    Judges (gather find items) (∀ item ∈ items, condition item) := by
  -- Induction on the list: the findings of the first stand in front of those of the rest.
  induction items with
  | nil => exact judges_nil.congr (by simp)
  | cons item items ih =>
    have first := each item (by simp)
    have later := ih fun other member => each other (by simp [member])
    exact (first.join later).congr List.forall_mem_cons.symm

end PlanLint
