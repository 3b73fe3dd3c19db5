import PlanLint.Proofs.Validation
import PlanLint.Proofs.Yaml.Node.Settled

/-! What it changes that repeated keys are allowed: nothing, where a text repeats none. -/

namespace PlanLint

/-- A text without a repeated key is parsed alike whether they are allowed or not. -/
theorem parseDocument_of_unrepeated {text : List Char} (unrepeated : (readText text).repeated = none)
    (lines : List Line) (allows : Bool) : parseDocument text lines allows = parseDocument text lines true := by
  -- What is allowed only matters to a repeated key, and none was noted.
  have same : (readText text).settle allows = (readText text).settle true := by
    simp only [Outcome.settle, unrepeated]
  simp only [parseDocument, same]

/-- Neither does it matter then for the validation. -/
theorem validate_of_unrepeated {text : List Char} (unrepeated : (readText text).repeated = none) (allows : Bool) :
    validate text allows = validate text true := by
  -- A validation reads the text once, and reads nothing else.
  simp only [validate, parseDocument_of_unrepeated unrepeated]

/-- A result with a document is about a text that was read as a mapping. -/
theorem settle_of_validate {text : List Char} {allows : Bool} {result : ValidationResult}
    (validated : validate text allows = .ok result) (read : result.document.isSome = true) :
    ∃ entries, (readText text).settle allows = .ok (.mapping entries) := by
  unfold validate at validated
  dsimp only at validated
  split at validated
  · exact absurd validated (by simp)
  · rename_i outcome parsed
    split at validated
    · -- Without a document there would be none in the result.
      rw [← Except.ok.inj validated] at read
      exact absurd read (by simp)
    · rename_i document there
      rcases parseDocument_eq_ok parsed with ⟨entries, settled, -⟩ | rfl | ⟨problem, -, rfl⟩
      · exact ⟨entries, settled⟩
      · exact absurd there (by simp [ParseOutcome.failed])
      · exact absurd there (by simp [ParseOutcome.failed])

/-- A text comes to a result with a document where repeated keys are refused exactly if it comes to that result
where they are allowed and has no repeated key. -/
theorem validate_refusing_iff_allowing (text : List Char) (result : ValidationResult) :
    (validate text false = .ok result ∧ result.document.isSome = true) ↔
      validate text true = .ok result ∧ result.document.isSome = true ∧ (readText text).repeated = none := by
  constructor
  · rintro ⟨validated, read⟩
    -- Reading came to a value although no key could be repeated, so none was.
    obtain ⟨entries, settled⟩ := settle_of_validate validated read
    have unrepeated := (Outcome.settle_false_eq_ok_iff.mp settled).2
    exact ⟨(validate_of_unrepeated unrepeated false).symm.trans validated, read, unrepeated⟩
  · rintro ⟨validated, read, unrepeated⟩
    exact ⟨(validate_of_unrepeated unrepeated false).trans validated, read⟩

/-- A merge key, an alias and a set repeat no key: the text has the same document either way. With a key that is
there twice, it has one only if that is allowed. -/
example :
    let merged := "project: p\nb: &b {x: 1}\nc: {<<: *b, x: 2}\nd: !!set {x, y}".toList
    let repeated := "project: p\nb: {x: 1, x: 2}".toList
    (validate merged false).toOption.map (·.document.isSome) = some true ∧
      (validate repeated false).toOption.map (·.document.isSome) = some false ∧
      (validate repeated true).toOption.map (·.document.isSome) = some true := by
  decide +kernel

end PlanLint
