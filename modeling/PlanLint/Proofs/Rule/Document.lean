import PlanLint.Proofs.Rule.Sections

/-! All rules together read the text only through the ranges that they point at. -/

namespace PlanLint

/-- The key of the top level under a name, or the start of the document if it is not found. -/
def topLevelKeyRange (lines : List Line) (key : List Char) : TextRange :=
  match locateKey lines key with
  | none => documentStartRange lines
  | some position => position.keyRange

/-- The name of the project, its key if the name is empty, or the start of the document. -/
def projectRange (lines : List Line) : TextRange :=
  match locateKey lines "project".toList with
  | none => documentStartRange lines
  | some position =>
    if position.valueStart < position.valueEnd then position.valueRange else position.keyRange

/-- What any of the rules can point at is in relation in two texts. -/
structure DocumentPlaces (R : TextRange → TextRange → Prop) (lines₁ lines₂ : List Line) : Prop where
  project : R (projectRange lines₁) (projectRange lines₂)
  key : ∀ name, R (topLevelKeyRange lines₁ name) (topLevelKeyRange lines₂ name)
  sections : ∀ name, SectionPlaces R lines₁ lines₂ name

section Document

variable {R : TextRange → TextRange → Prop} {lines₁ lines₂ : List Line}

/-- The rule for the project only points at its name. -/
theorem alike_checkProject (places : DocumentPlaces R lines₁ lines₂) (document : Entries) :
    Alike R (checkProject document lines₁) (checkProject document lines₂) := by
  -- Whether the project is named is read from the document alone.
  unfold checkProject
  split
  · exact .nil
  · exact .single (alike_errorAt places.project _)

/-- The rule for the version only points at its value. -/
theorem alike_checkVersion (places : DocumentPlaces R lines₁ lines₂) (document : Entries) :
    Alike R (checkVersion document lines₁) (checkVersion document lines₂) := by
  unfold checkVersion
  split
  · exact .nil
  · -- The version is shown before anything is looked up, so both fail to show it or neither does.
    cases (valueUnder document "version").shown with
    | error cause => exact .error cause
    | ok shown =>
      simp only [Bind.bind, Except.bind, Pure.pure, Except.pure]
      split
      · exact .nil
      · exact .single (alike_warningAt (places.sections "version".toList).value _)

/-- The rule for a key of the top level only points at that key. -/
theorem alike_unknownKeyFindings (places : DocumentPlaces R lines₁ lines₂) (key : Value) :
    Alike R (unknownKeyFindings lines₁ key) (unknownKeyFindings lines₂ key) := by
  unfold unknownKeyFindings
  -- As for the version, the key is shown first, and neither the name nor whether it is known depends on the text.
  cases key.shown with
  | error cause => exact .error cause
  | ok name =>
    simp only [Bind.bind, Except.bind, Pure.pure, Except.pure]
    split
    · exact .nil
    · exact .single (alike_warningAt (places.key name.toList) _)

/-- Every rule only points at the places of the document. -/
theorem alike_of_mem_checks (places : DocumentPlaces R lines₁ lines₂) (document : Entries) {check : Check}
    (member : check ∈ checks) : Alike R (check document lines₁) (check document lines₂) := by
  have ofSection : ∀ part : PlanSection, Alike R (part.check document lines₁) (part.check document lines₂) :=
    fun part => alike_check part document (places.sections part.key.toList)
  simp only [checks, List.mem_cons, List.not_mem_nil, or_false] at member
  -- Three rules are for the top level, and each of the other five is the check of a section.
  rcases member with rfl | rfl | rfl | rfl | rfl | rfl | rfl | rfl
  · exact alike_checkProject places document
  · exact alike_checkVersion places document
  · exact ofSection (.sequence .repositories)
  · exact ofSection (.sequence .releases)
  · exact ofSection (.sequence .registries)
  · exact ofSection (.sequence .monitors)
  · exact ofSection .lifecycle
  · exact alike_gather fun entry _ => alike_unknownKeyFindings places entry.1

/-- The rules together only point at the places of the document. -/
theorem alike_validateDocument (places : DocumentPlaces R lines₁ lines₂) (document : Entries) :
    Alike R (validateDocument document lines₁) (validateDocument document lines₂) :=
  alike_gather fun _ member => alike_of_mem_checks places document member

end Document

/-- What a finding tells, but for its range. -/
def Diagnostic.told (d : Diagnostic) : String × Severity × String := (d.message, d.severity, d.source)

/-- Findings that are alike tell the same, whatever is known of their ranges. -/
theorem Alike.told_eq {R : TextRange → TextRange → Prop} {findings others : Findings}
    (alike : Alike R findings others) :
    findings.map (·.map Diagnostic.told) = others.map (·.map Diagnostic.told) := by
  cases alike with
  | error cause => rfl
  | ok each =>
    simp only [Except.map, Except.ok.injEq]
    -- The two lists are as long as each other, and the findings at one place tell the same.
    induction each with
    | nil => rfl
    | cons same _ ih =>
      rw [List.map_cons, List.map_cons, ih, Diagnostic.told, Diagnostic.told, same.message, same.severity,
        same.source]

/-- If nothing is asked of ranges, the places of any two texts are in relation. -/
theorem documentPlaces_any (lines₁ lines₂ : List Line) :
    DocumentPlaces (fun _ _ => True) lines₁ lines₂ where
  project := trivial
  key _ := trivial
  sections _ :=
    { value := trivial
      items := fun _ => ⟨trivial, fun _ _ => trivial, fun _ _ => trivial, fun _ _ => trivial⟩
      nested := fun _ => ⟨fun _ _ => trivial, fun _ => trivial⟩
      hooks := ⟨fun _ => trivial, fun _ => trivial, fun _ _ => trivial⟩ }

/-- Over any two texts, the rules report the same findings for a document in the same order, or break
off for the same cause; only the ranges depend on the text. -/
theorem validateDocument_told_eq (document : Entries) (lines₁ lines₂ : List Line) :
    (validateDocument document lines₁).map (·.map Diagnostic.told) =
      (validateDocument document lines₂).map (·.map Diagnostic.told) :=
  -- Every branch that decides about a finding reads the document alone.
  (alike_validateDocument (documentPlaces_any lines₁ lines₂) document).told_eq

end PlanLint
