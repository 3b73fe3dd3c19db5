import PlanLint.Proofs.Rule.Locality

/-! What is found for an item, a block or a command depends on what it holds under the names of fields, not on
how it is written down. -/

namespace PlanLint

/-- Two values are the same, or mappings that hold the same under each name. -/
def SameFields (value other : Value) : Prop :=
  value = other ∨ ∃ entries others, value = .mapping entries ∧ other = .mapping others ∧
    ∀ name, valueUnder others name = valueUnder entries name

/-- Two values are the same, or mappings that hold the same under each name but for some, under which they hold
the same fields. -/
def SameNested (names : List String) (value other : Value) : Prop :=
  value = other ∨ ∃ entries others, value = .mapping entries ∧ other = .mapping others ∧
    (∀ name ∈ names, SameFields (valueUnder entries name) (valueUnder others name)) ∧
    ∀ name ∉ names, valueUnder others name = valueUnder entries name

/-- Two sequences have counterparts in the same places, or are the same. -/
def SameItems (same : Value → Value → Prop) (value other : Value) : Prop :=
  value = other ∨ ∃ items others, value = .list items ∧ other = .list others ∧ List.Forall₂ same items others

/-- How alike two items of a section are if nothing in them is looked at but fields. -/
def SequenceSection.SameItem : SequenceSection → Value → Value → Prop
  | .repositories => SameFields
  | .registries => SameFields
  | .releases => SameNested ["chart"]
  | .monitors => SameNested monitorTypes

/-- The key of a name bears one of some names if the name is among them. -/
theorem any_isName_text_iff {names : List String} {name : String} :
    names.any (Value.text name).isName = true ↔ name ∈ names := by
  -- A text bears the name that it is.
  simp [Value.isName, List.any_eq_true]

section Items

variable (lines : List Line) (span : Option LineSpan) (anchor : TextRange) (index : Nat)
variable {value rest item other : Value} {entries others : Entries}

/-- Neither of two mappings is missing, whatever they hold. -/
theorem SameFields.isMissing_eq (same : SameFields value rest) : rest.isMissing = value.isMissing := by
  -- A mapping is never missing.
  obtain rfl | ⟨entries, others, rfl, rfl, -⟩ := same <;> rfl

/-- A field that holds the same fields is missing as before. -/
theorem isMissing_eq_of_nested {names : List String}
    (inside : ∀ name ∈ names, SameFields (valueUnder entries name) (valueUnder others name))
    (outside : ∀ name ∉ names, valueUnder others name = valueUnder entries name) (name : String) :
    (valueUnder others name).isMissing = (valueUnder entries name).isMissing := by
  -- The names are those of fields with fields of their own; all others hold the very same.
  by_cases among : name ∈ names
  · exact (inside name among).isMissing_eq
  · rw [outside name among]

/-- The rule for required fields only reads whether fields are missing. -/
theorem missingFields_congr
    (missing : ∀ name, (valueUnder others name).isMissing = (valueUnder entries name).isMissing)
    (fields : List String) (label : String) :
    missingFields others fields label anchor = missingFields entries fields label anchor := by
  -- The rule asks nothing else of any field.
  simp only [missingFields, missing]

/-- So does the rule for credentials. -/
theorem authFindings_congr
    (missing : ∀ name, (valueUnder others name).isMissing = (valueUnder entries name).isMissing)
    (label : String) : authFindings label others anchor = authFindings label entries anchor := by
  -- Whether credentials are whole is a question about two fields that may be missing.
  have partly : hasPartialAuth others = hasPartialAuth entries := by
    rw [hasPartialAuth, hasPartialAuth, missing, missing]
  rw [authFindings, authFindings, partly]

/-- The rule for repositories finds the same in the same fields. -/
theorem repositoryFindings_of_sameFields (same : SameFields item other) :
    repositoryFindings lines span anchor index other = repositoryFindings lines span anchor index item := by
  obtain rfl | ⟨entries, others, rfl, rfl, each⟩ := same
  · rfl
  -- The fields are missing alike, and what is under the name of the URL is the same.
  have missing := fun name => congrArg Value.isMissing (each name)
  rw [repositoryFindings, repositoryFindings, missingFields_congr anchor missing,
    authFindings_congr anchor missing, each]

/-- So does the rule for registries. -/
theorem registryFindings_of_sameFields (same : SameFields item other) :
    registryFindings anchor index other = registryFindings anchor index item := by
  -- A registry is judged by missing fields alone.
  obtain rfl | ⟨entries, others, rfl, rfl, each⟩ := same
  · rfl
  have missing := fun name => congrArg Value.isMissing (each name)
  rw [registryFindings, registryFindings, missingFields_congr anchor missing, authFindings_congr anchor missing]

/-- So does the rule for charts. -/
theorem chartFindings_of_sameFields (same : SameFields value rest) :
    chartFindings lines span anchor rest = chartFindings lines span anchor value := by
  -- A chart is read by its fields, each of which is the same.
  obtain rfl | ⟨entries, others, rfl, rfl, each⟩ := same
  · rfl
  · simp only [chartFindings, each]

/-- So does the rule for releases, also in the fields of the chart. -/
theorem releaseFindings_of_sameNested (same : SameNested ["chart"] item other) :
    releaseFindings lines span anchor index other = releaseFindings lines span anchor index item := by
  obtain rfl | ⟨entries, others, rfl, rfl, inside, outside⟩ := same
  · rfl
  have missing := isMissing_eq_of_nested inside outside
  -- No field but the chart is looked into.
  have choices : ∀ field ∈ releaseChoiceFields, field.1 ∉ ["chart"] := by decide
  have arrays : ∀ field ∈ releaseArrayFields, field ∉ ["chart"] := by decide
  have chosen := gather_congr (fun field : String × List String =>
      choiceFindings lines span anchor field.1 field.2 (valueUnder others field.1))
    fun field member => by rw [outside field.1 (choices field member)]
  have listed := List.flatMap_congr fun field member =>
    congrArg (arrayFindings lines span anchor field) (outside field (arrays field member))
  rw [releaseFindings, releaseFindings, chosen, listed, missingFields_congr anchor missing,
    chartFindings_of_sameFields lines span anchor (inside "chart" (by simp))]

/-- So does the rule for an HTTP block. -/
theorem httpBlockFindings_of_sameFields (same : SameFields value rest) :
    httpBlockFindings lines span anchor rest = httpBlockFindings lines span anchor value := by
  obtain rfl | ⟨entries, others, rfl, rfl, each⟩ := same
  · rfl
  -- The method and the codes are looked up once each, besides the required fields.
  have missing := fun name => congrArg Value.isMissing (each name)
  rw [httpBlockFindings, httpBlockFindings, httpFindings, httpFindings, missingFields_congr anchor missing,
    each, each]

/-- So does the rule for a Prometheus block. -/
theorem prometheusBlockFindings_of_sameFields (same : SameFields value rest) :
    prometheusBlockFindings lines span anchor rest = prometheusBlockFindings lines span anchor value := by
  -- The block is judged by missing fields alone.
  obtain rfl | ⟨entries, others, rfl, rfl, each⟩ := same
  · rfl
  have missing := fun name => congrArg Value.isMissing (each name)
  rw [prometheusBlockFindings, prometheusBlockFindings, missingFields_congr anchor missing]

/-- So does the rule for monitors, also in the fields of both blocks. -/
theorem monitorFindings_of_sameNested (same : SameNested monitorTypes item other) :
    monitorFindings lines span anchor index other = monitorFindings lines span anchor index item := by
  obtain rfl | ⟨entries, others, rfl, rfl, inside, outside⟩ := same
  · rfl
  -- The type says which block is looked into.
  rw [monitorFindings, monitorFindings, typeFindings, typeFindings,
    missingFields_congr anchor (isMissing_eq_of_nested inside outside), outside "type" (by decide),
    httpBlockFindings_of_sameFields lines span anchor (inside "http" (by decide)),
    prometheusBlockFindings_of_sameFields lines span anchor (inside "prometheus" (by decide))]

/-- So does the rule for the items of each section. -/
theorem findingsAt_of_sameItem (part : SequenceSection) (same : part.SameItem item other) :
    part.findingsAt lines index other = part.findingsAt lines index item := by
  -- What an item may change in is what the rule of its section does not read.
  cases part with
  | repositories => exact repositoryFindings_of_sameFields _ _ _ _ same
  | registries => exact registryFindings_of_sameFields _ _ same
  | releases => exact releaseFindings_of_sameNested _ _ _ _ same
  | monitors => exact monitorFindings_of_sameNested _ _ _ _ same

/-- So does the rule for commands. -/
theorem commandFindings_of_sameFields (hook : String) (same : SameFields item other) :
    commandFindings hook anchor other = commandFindings hook anchor item := by
  -- A command is read by its fields, each of which is the same.
  obtain rfl | ⟨entries, others, rfl, rfl, each⟩ := same
  · rfl
  · simp only [commandFindings, each]

end Items

section Sequences

variable (lines : List Line) {value rest : Value}

/-- Numbered items give rise to the same if each of them and its counterpart do. -/
theorem map_zipIdx_eq_of_forall₂ {α β : Type} {R : α → α → Prop} {items others : List α}
    (each : List.Forall₂ R items others) (find : α × Nat → β)
    (same : ∀ item other index, R item other → find (other, index) = find (item, index)) (start : Nat) :
    (others.zipIdx start).map find = (items.zipIdx start).map find := by
  -- Counterparts have one number, so the count goes on from the same one on both sides.
  induction each generalizing start with
  | nil => rfl
  | cons related _ ih =>
    rw [List.zipIdx_cons, List.map_cons, List.zipIdx_cons, List.map_cons, same _ _ _ related, ih]

/-- The rule for a hook finds the same in commands with the same fields. -/
theorem hookFindings_of_sameItems (hook : String) (position : Option KeyPosition) (fallback : TextRange)
    (same : SameItems SameFields value rest) :
    hookFindings hook lines position fallback rest = hookFindings hook lines position fallback value := by
  obtain rfl | ⟨commands, others, rfl, rfl, each⟩ := same
  · rfl
  -- The commands keep their numbers, and with them their places in the text.
  simp only [hookFindings, commandsFindings, List.flatMap_def]
  rw [map_zipIdx_eq_of_forall₂ each _ fun _ _ _ same => commandFindings_of_sameFields _ hook same]

/-- The check of a sequence finds the same in items with the same fields. -/
theorem check_sequence_of_sameItems {document others : Entries} (part : SequenceSection)
    (same : SameItems part.SameItem (valueUnder document part.key) (valueUnder others part.key)) :
    (PlanSection.sequence part).check others lines = (PlanSection.sequence part).check document lines := by
  obtain same | ⟨items, others, whole, also, each⟩ := same
  · exact (PlanSection.sequence part).readsOnly_check _ _ lines same.symm
  -- What is found for an item depends on its number and on what it holds under names.
  rw [check_sequence_of_list lines whole, check_sequence_of_list lines also]
  exact gather_eq_of_map_eq _ <| map_zipIdx_eq_of_forall₂ each _
    (fun _ _ index same => findingsAt_of_sameItem lines index part same) 0

/-- What is found for a hook stays if its commands have the same fields. -/
theorem hookEntryFindings_of_sameItems (key : Value) (same : SameItems SameFields value rest) :
    hookEntryFindings lines (key, rest) = hookEntryFindings lines (key, value) := by
  -- The key of the hook stays, and the rule goes through its commands.
  simp only [hookEntryFindings, lifecycleEntryFindings, hookFindings_of_sameItems lines _ _ _ same]

end Sequences

end PlanLint
