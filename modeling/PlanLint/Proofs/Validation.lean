import PlanLint.Validation

/-! What parsing and validating a text can come to. -/

namespace PlanLint

/-- A parse gives the entries of a mapping; or the finding that the document is none; or the finding
about the problem with which reading failed. -/
theorem parseDocument_eq_ok {text : List Char} {lines : List Line} {allows : Bool} {outcome : ParseOutcome}
    (parsed : parseDocument text lines allows = .ok outcome) :
    (∃ entries, (readText text).settle allows = .ok (.mapping entries) ∧ outcome = ⟨some entries, []⟩) ∨
      outcome = .failed (invalidDocument lines) ∨
      ∃ problem, (readText text).settle allows = .error (.problem problem) ∧
        outcome = .failed (syntaxError lines problem) := by
  unfold parseDocument at parsed
  split at parsed
  · -- A blank text is not even read.
    exact .inr (.inl (Except.ok.inj parsed).symm)
  · split at parsed
    · rename_i entries read
      exact .inl ⟨entries, read, (Except.ok.inj parsed).symm⟩
    · exact .inr (.inl (Except.ok.inj parsed).symm)
    · rename_i problem read
      exact .inr (.inr ⟨problem, read, (Except.ok.inj parsed).symm⟩)
    · -- A breakdown of reading is passed on, so there is no outcome.
      exact absurd parsed (by simp)

end PlanLint
