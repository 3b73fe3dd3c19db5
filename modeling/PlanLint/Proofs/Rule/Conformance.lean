import PlanLint.Rule.Document
import PlanLint.Proofs.Rule.Verdict

/-! A document gets no error exactly if it conforms to the schema of plan files. -/

namespace PlanLint

/-- A value is given unless it is null or a text of blanks. -/
def Value.IsGiven : Value → Prop
  | .null => False
  | .text s => ∃ c ∈ s.toList, isBlank c = false
  | _ => True

/-- An entry gives each of the named fields a value. -/
def HasFields (entry : Entries) (fields : List String) : Prop :=
  ∀ field ∈ fields, (valueUnder entry field).IsGiven

/-- Nothing, or a list. -/
def Value.IsOptionalList : Value → Prop
  | .null => True
  | .list _ => True
  | _ => False

/-- Nothing, or a list of mappings that meet a condition each. -/
def Value.IsListOf (condition : Entries → Prop) : Value → Prop
  | .null => True
  | .list items => ∀ item ∈ items, ∃ entry, item = .mapping entry ∧ condition entry
  | _ => False

/-- A text, or a mapping with a name. -/
def Value.IsChart : Value → Prop
  | .text _ => True
  | .mapping chart => (valueUnder chart "name").IsGiven
  | _ => False

/-- A release has its fields, a chart among them, and lists where lists are expected. -/
structure IsRelease (release : Entries) : Prop where
  fields : HasFields release ["name", "chart", "namespace"]
  chart : (valueUnder release "chart").IsChart
  lists : ∀ field ∈ ["values", "depends_on", "tags", "monitors"], (valueUnder release field).IsOptionalList

/-- The block of an HTTP monitor. -/
def Value.IsHttpBlock (value : Value) : Prop :=
  ∃ http codes, value = .mapping http ∧ HasFields http ["url", "expected_codes"] ∧
    valueUnder http "expected_codes" = .list codes

/-- The block of a Prometheus monitor. -/
def Value.IsPrometheusBlock (value : Value) : Prop :=
  ∃ prometheus, value = .mapping prometheus ∧ HasFields prometheus ["url", "expr"]

/-- A monitor has its fields and the block of its type. -/
structure IsMonitor (monitor : Entries) : Prop where
  fields : HasFields monitor ["name", "type"]
  http : valueUnder monitor "type" = .text "http" → (valueUnder monitor "http").IsHttpBlock
  prometheus : valueUnder monitor "type" = .text "prometheus" →
    (valueUnder monitor "prometheus").IsPrometheusBlock

/-- A text, or a mapping with a command. -/
def Value.IsCommand : Value → Prop
  | .text _ => True
  | .mapping command => (valueUnder command "cmd").IsGiven
  | _ => False

/-- Nothing, or a list of commands. -/
def Value.IsHook : Value → Prop
  | .null => True
  | .list commands => ∀ command ∈ commands, command.IsCommand
  | _ => False

/-- Nothing, or a mapping in which whatever is printed like the name of a hook has commands. -/
def Value.IsLifecycle : Value → Prop
  | .null => True
  | .mapping lifecycle => ∀ entry ∈ lifecycle, ∀ hook ∈ ["pre_up", "post_up", "pre_down", "post_down",
      "pre_build", "post_build", "pre_rollback", "post_rollback"],
      entry.1.shown = .ok hook → entry.2.IsHook
  | _ => False

/-- What the schema of plan files asks of a document. -/
structure Conforms (document : Entries) : Prop where
  project : (valueUnder document "project").IsGiven
  repositories : (valueUnder document "repositories").IsListOf (HasFields · ["name", "url"])
  registries : (valueUnder document "registries").IsListOf (HasFields · ["host"])
  releases : (valueUnder document "releases").IsListOf IsRelease
  monitors : (valueUnder document "monitors").IsListOf IsMonitor
  lifecycle : (valueUnder document "lifecycle").IsLifecycle

/-- What is not missing is given. -/
theorem isMissing_eq_false_iff {value : Value} : value.isMissing = false ↔ value.IsGiven := by
  -- Only nothing and blank texts are missing, so each kind of value tells.
  cases value <;> simp [Value.isMissing, Value.IsGiven, isBlankText]

/-- Something holds of each item of a list exactly if it does of each numbered one. -/
theorem forall_mem_zipIdx_iff {α : Type} (condition : α → Prop) {items : List α} :
    (∀ item ∈ items.zipIdx, condition item.1) ↔ ∀ item ∈ items, condition item := by
  -- The numbers are dropped again to get the items.
  have numbered : items.zipIdx.map (·.1) = items := List.zipIdx_map_fst 0 items
  rw [← List.forall_mem_map (P := condition), numbered]

/-- There is no error about fields if all of them are there. -/
theorem errorFree_missingFields {entry : Entries} {fields : List String} {label : String}
    {anchor : TextRange} : ErrorFree (missingFields entry fields label anchor) ↔ HasFields entry fields := by
  -- There is a finding for exactly those fields that are filtered out as missing.
  unfold missingFields HasFields
  constructor
  · intro free field member
    rw [← isMissing_eq_false_iff]
    cases missing : (valueUnder entry field).isMissing with
    | false => rfl
    | true =>
      refine absurd rfl (free _ (List.mem_map.mpr ⟨field, ?_, rfl⟩))
      exact List.mem_filter.mpr ⟨member, missing⟩
  · intro given finding member
    obtain ⟨field, absent, rfl⟩ := List.mem_map.mp member
    obtain ⟨among, missing⟩ := List.mem_filter.mp absent
    rw [isMissing_eq_false_iff.mpr (given field among)] at missing
    exact absurd missing (by simp)

/-- The rules for a sequence judge it as they judge its items. -/
theorem judges_sequenceFindings {document : Entries} (printable : (Value.mapping document).Printable)
    {lines : List Line} {key : String} {find : Option LineSpan → TextRange → Nat → Value → Findings}
    {condition : Entries → Prop}
    (each : ∀ span anchor index item, item.Printable →
      Judges (find span anchor index item) (∃ entry, item = .mapping entry ∧ condition entry)) :
    Judges (sequenceFindings document lines key find) ((valueUnder document key).IsListOf condition) := by
  have value := printable.valueUnder key
  unfold sequenceFindings
  -- The rule and the schema distinguish the same forms of a section.
  generalize valueUnder document key = sequence at value ⊢
  cases sequence with
  | null => exact judges_nil
  | list items =>
    refine Judges.congr (judges_gather fun item member => ?_)
      (forall_mem_zipIdx_iff fun item : Value => ∃ entry, item = .mapping entry ∧ condition entry)
    exact each _ _ _ _ (value.of_mem_list (List.fst_mem_of_mem_zipIdx member))
  | _ => exact judges_errorAt _ _

/-- An item that is no mapping is an error. -/
theorem judges_notAnObject (label : String) (index : Nat) (anchor : TextRange) :
    Judges (notAnObject label index anchor) False :=
  judges_errorAt _ _

/-- Credentials that are not whole are no error. -/
theorem errorFree_authFindings (label : String) (entry : Entries) (anchor : TextRange) :
    ErrorFree (authFindings label entry anchor) := by
  -- The only finding is a warning.
  unfold authFindings
  split
  · exact errorFree_warningAt _ _
  · exact errorFree_nil

/-- A repository with its fields is accepted, whatever its URL and its credentials are. -/
theorem judges_repositoryFindings (lines : List Line) (span : Option LineSpan) (anchor : TextRange)
    (index : Nat) (item : Value) : Judges (repositoryFindings lines span anchor index item)
      (∃ entry, item = .mapping entry ∧ HasFields entry ["name", "url"]) := by
  cases item with
  | mapping repository =>
    -- A URL of the wrong form and credentials that are not whole are only warned about.
    have url : ErrorFree (repositoryUrlFindings lines span anchor (valueUnder repository "url")) := by
      unfold repositoryUrlFindings
      split
      · exact errorFree_nil
      · exact errorFree_warningAt _ _
    refine judges_ok ?_
    simp [errorFree_append, errorFree_missingFields, url, errorFree_authFindings, repositoryFields]
  | _ => exact (judges_notAnObject _ _ _).congr (by simp)

/-- A registry with its host is accepted, whatever its credentials are. -/
theorem judges_registryFindings (anchor : TextRange) (index : Nat) (item : Value) :
    Judges (registryFindings anchor index item)
      (∃ entry, item = .mapping entry ∧ HasFields entry ["host"]) := by
  -- Of a registry only the fields can give an error.
  cases item with
  | mapping registry =>
    refine judges_ok ?_
    simp [errorFree_append, errorFree_missingFields, errorFree_authFindings, registryFields]
  | _ => exact (judges_notAnObject _ _ _).congr (by simp)

/-- There is no error about a chart that is one, nor about one that is missing altogether. -/
theorem errorFree_chartFindings {lines : List Line} {span : Option LineSpan} {anchor : TextRange}
    {chart : Value} : ErrorFree (chartFindings lines span anchor chart) ↔ chart = .null ∨ chart.IsChart := by
  -- A chart is a name, or a mapping that has to have one.
  cases chart with
  | null => simp [chartFindings, errorFree_nil]
  | text s => simp [chartFindings, errorFree_nil, Value.IsChart]
  | mapping entries =>
    simp only [chartFindings, Value.IsChart, ← isMissing_eq_false_iff]
    cases (valueUnder entries "name").isMissing with
    | true => simp [not_errorFree_errorAt]
    | false => simp [errorFree_nil]
  | _ => simp [chartFindings, not_errorFree_errorAt, Value.IsChart]

/-- There is no error about a field that holds a list, nor about one that holds nothing. -/
theorem errorFree_arrayFindings {lines : List Line} {span : Option LineSpan} {anchor : TextRange}
    {field : String} {value : Value} :
    ErrorFree (arrayFindings lines span anchor field value) ↔ value.IsOptionalList := by
  -- Only a value that is neither a list nor nothing gives an error.
  cases value <;> simp [arrayFindings, Value.IsOptionalList, errorFree_nil, not_errorFree_errorAt]

/-- A wrong choice is no error. -/
theorem judges_choiceFindings {value : Value} (printable : value.Printable) (lines : List Line)
    (span : Option LineSpan) (anchor : TextRange) (field : String) (choices : List String) :
    Judges (choiceFindings lines span anchor field choices value) True := by
  unfold choiceFindings
  split
  · exact judges_nil
  · split
    · exact judges_nil
    · -- A wrong choice is shown in a warning, which the value being printable allows.
      exact judges_warningShowing printable _ _ _

/-- A release is accepted if it is one, whatever its choices are. -/
theorem judges_releaseFindings {item : Value} (printable : item.Printable) (lines : List Line)
    (span : Option LineSpan) (anchor : TextRange) (index : Nat) :
    Judges (releaseFindings lines span anchor index item)
      (∃ entry, item = .mapping entry ∧ IsRelease entry) := by
  cases item with
  | mapping release =>
    refine Judges.congr (Judges.append Iff.rfl (judges_gather fun field _ =>
      judges_choiceFindings (printable.valueUnder field.1) lines span anchor field.1 field.2)) ?_
    simp only [errorFree_append, errorFree_missingFields, errorFree_chartFindings, errorFree_flatMap,
      errorFree_arrayFindings, releaseFields, releaseArrayFields, Value.mapping.injEq, exists_eq_left']
    constructor
    · intro held
      obtain ⟨⟨⟨fields, chart⟩, lists⟩, -⟩ := held
      refine ⟨fields, chart.resolve_left ?_, lists⟩
      -- A chart that is null was already refused with the required fields.
      intro null
      have given := fields "chart" (by simp)
      rw [null] at given
      exact given
    · intro held
      obtain ⟨fields, chart, lists⟩ := held
      exact ⟨⟨⟨fields, .inr chart⟩, lists⟩, fun _ _ => trivial⟩
  | _ => exact (judges_notAnObject _ _ _).congr (by simp)

/-- A wrong status code is no error. -/
theorem judges_codeFindings {codes : List Value} (printable : (Value.list codes).Printable)
    (lines : List Line) (span : Option LineSpan) (fallback : TextRange) :
    Judges (codeFindings lines span fallback codes) True := by
  refine Judges.congr (judges_gather fun code member => ?_) (iff_of_true (fun _ _ => trivial) trivial)
  -- What is wrong with one code is at most a warning.
  split
  · exact judges_nil
  · exact judges_warningShowing (printable.of_mem_list (List.fst_mem_of_mem_zipIdx member)) _ _ _

/-- A wrong method is no error. -/
theorem judges_methodFindings {method : Value} (printable : method.Printable) (lines : List Line)
    (span : Option LineSpan) (anchor : TextRange) :
    Judges (methodFindings lines span anchor method) True := by
  -- A method that is given and wrong is shown in a warning, so it has to be printable.
  unfold methodFindings
  split
  · exact judges_nil
  · split
    · exact judges_nil
    · exact judges_warningShowing printable _ _ _

/-- Expected codes are accepted if they are a list, whatever is in it. -/
theorem judges_expectedCodesFindings {codes : Value} (printable : codes.Printable) (lines : List Line)
    (span : Option LineSpan) (anchor : TextRange) :
    Judges (expectedCodesFindings lines span anchor codes) codes.IsOptionalList := by
  -- A list is judged by its codes, which only give warnings.
  cases codes with
  | null => exact judges_nil
  | list codes => exact judges_codeFindings printable _ _ _
  | _ => exact judges_errorAt _ _

/-- The entries of an HTTP block are accepted if the block is complete. -/
theorem judges_httpFindings {http : Entries} (printable : (Value.mapping http).Printable)
    (lines : List Line) (span : Option LineSpan) (anchor : TextRange) :
    Judges (httpFindings lines span anchor http) (Value.mapping http).IsHttpBlock := by
  obtain ⟨method, found, harmless⟩ :=
    judges_methodFindings (printable.valueUnder "method") lines span anchor
  obtain ⟨codes, listed, exact_⟩ :=
    judges_expectedCodesFindings (printable.valueUnder "expected_codes") lines span anchor
  unfold httpFindings
  rw [found, listed]
  refine judges_ok ?_
  rw [errorFree_append, errorFree_append, errorFree_missingFields, harmless, exact_, and_true]
  constructor
  · intro held
    obtain ⟨fields, list⟩ := held
    -- Codes that are null were already refused with the required fields.
    have given := fields "expected_codes" (by simp [httpMonitorFields])
    generalize value : valueUnder http "expected_codes" = codes at given list
    cases codes with
    | list codes => exact ⟨http, codes, rfl, fields, value⟩
    | null => exact absurd given not_false
    | _ => exact absurd list not_false
  · intro held
    obtain ⟨entries, codes, same, fields, value⟩ := held
    cases same
    exact ⟨fields, by rw [value]; trivial⟩

/-- An empty mapping is printable. -/
theorem printable_mapping_nil : (Value.mapping []).Printable :=
  ⟨by simp [Value.leadsBack, anyEntryLeadsBack], by simp [Value.hasLongInteger, anyEntryHasLongInteger]⟩

/-- Nothing is there in an empty mapping. -/
theorem not_hasFields_nil {field : String} {fields : List String} : ¬ HasFields [] (field :: fields) :=
  fun fields => fields field (by simp)

/-- The block of an HTTP monitor is accepted if it is one. -/
theorem judges_httpBlockFindings {block : Value} (printable : block.Printable) (lines : List Line)
    (span : Option LineSpan) (anchor : TextRange) :
    Judges (httpBlockFindings lines span anchor block) block.IsHttpBlock := by
  cases block with
  | null =>
    -- A block that is absent is read like an empty one, and that lacks its fields.
    refine (judges_httpFindings printable_mapping_nil lines span anchor).congr (iff_of_false ?_ ?_)
    · intro held
      obtain ⟨http, codes, same, fields, -⟩ := held
      cases same
      exact not_hasFields_nil fields
    · intro held
      obtain ⟨http, codes, same, -⟩ := held
      cases same
  | mapping http => exact judges_httpFindings printable lines span anchor
  | _ => exact (judges_errorAt _ _).congr (by simp [Value.IsHttpBlock])

/-- The block of a Prometheus monitor is accepted if it is one. -/
theorem judges_prometheusBlockFindings (lines : List Line) (span : Option LineSpan) (anchor : TextRange)
    (block : Value) : Judges (prometheusBlockFindings lines span anchor block) block.IsPrometheusBlock := by
  -- A block that is absent lacks its fields, and any other form is an error of its own.
  cases block with
  | null =>
    refine judges_ok (errorFree_missingFields.trans (iff_of_false not_hasFields_nil ?_))
    simp [Value.IsPrometheusBlock]
  | mapping prometheus =>
    refine judges_ok (errorFree_missingFields.trans ?_)
    simp [Value.IsPrometheusBlock, prometheusMonitorFields]
  | _ => exact (judges_errorAt _ _).congr (by simp [Value.IsPrometheusBlock])

/-- The type of a monitor selects the block that has to be there; an unknown type is no error. -/
theorem judges_typeFindings {monitor : Entries} (printable : (Value.mapping monitor).Printable)
    (lines : List Line) (span : Option LineSpan) (anchor : TextRange) :
    Judges (typeFindings lines span anchor monitor)
      ((valueUnder monitor "type" = .text "http" → (valueUnder monitor "http").IsHttpBlock) ∧
        (valueUnder monitor "type" = .text "prometheus" →
          (valueUnder monitor "prometheus").IsPrometheusBlock)) := by
  have shown := printable.valueUnder "type"
  unfold typeFindings
  dsimp only
  generalize valueUnder monitor "type" = type at shown ⊢
  split
  · rename_i missing
    -- A missing type is none of the two.
    refine judges_nil.congr (iff_of_true trivial ⟨?_, ?_⟩)
    · rintro rfl
      exact absurd missing (by decide)
    · rintro rfl
      exact absurd missing (by decide)
  · split
    · rename_i http
      obtain rfl := isName_iff.mp http
      refine (judges_httpBlockFindings (printable.valueUnder "http") lines span anchor).congr ?_
      simp
    · split
      · rename_i prometheus
        obtain rfl := isName_iff.mp prometheus
        refine (judges_prometheusBlockFindings lines span anchor _).congr ?_
        simp
      · rename_i http prometheus
        rw [isName_iff] at http prometheus
        refine (judges_warningShowing shown _ _ _).congr ?_
        simp [http, prometheus]

/-- A monitor is accepted if it is one. -/
theorem judges_monitorFindings {item : Value} (printable : item.Printable) (lines : List Line)
    (span : Option LineSpan) (anchor : TextRange) (index : Nat) :
    Judges (monitorFindings lines span anchor index item)
      (∃ entry, item = .mapping entry ∧ IsMonitor entry) := by
  cases item with
  | mapping monitor =>
    have byType := judges_typeFindings printable lines span anchor
    refine (Judges.append errorFree_missingFields byType).congr ?_
    -- The condition on the fields and those on the two blocks are the parts of a monitor.
    constructor
    · intro held
      obtain ⟨fields, http, prometheus⟩ := held
      exact ⟨monitor, rfl, fields, http, prometheus⟩
    · intro held
      obtain ⟨entry, same, fields, http, prometheus⟩ := held
      cases same
      exact ⟨fields, http, prometheus⟩
  | _ => exact (judges_notAnObject _ _ _).congr (by simp)

/-- There is no error about a command that is one. -/
theorem errorFree_commandFindings {hook : String} {anchor : TextRange} {command : Value} :
    ErrorFree (commandFindings hook anchor command) ↔ command.IsCommand := by
  cases command with
  | text s => simp [commandFindings, Value.IsCommand, errorFree_nil]
  | mapping entries =>
    simp only [commandFindings, Value.IsCommand, ← isMissing_eq_false_iff]
    cases (valueUnder entries "cmd").isMissing with
    | true => simp [not_errorFree_errorAt]
    | false =>
      -- Arguments of the wrong form are only warned about.
      refine iff_of_true ?_ rfl
      simp only [Bool.false_eq_true, if_false]
      split
      · exact errorFree_nil
      · exact errorFree_nil
      · exact errorFree_warningAt _ _
  | _ => simp [commandFindings, not_errorFree_errorAt, Value.IsCommand]

/-- There is no error about a hook that is one. -/
theorem errorFree_hookFindings {hook : String} {lines : List Line} {position : Option KeyPosition}
    {fallback : TextRange} {value : Value} :
    ErrorFree (hookFindings hook lines position fallback value) ↔ value.IsHook := by
  -- A list is judged command by command; any other value is an error itself.
  cases value with
  | null => simp [hookFindings, errorFree_nil, Value.IsHook]
  | list commands =>
    simp only [hookFindings, commandsFindings, errorFree_flatMap, errorFree_commandFindings, Value.IsHook]
    exact forall_mem_zipIdx_iff Value.IsCommand
  | _ => simp [hookFindings, not_errorFree_errorAt, Value.IsHook]

/-- An entry of the lifecycle section is accepted unless it is printed like a hook and is none; an
unknown hook is no error. -/
theorem judges_lifecycleEntryFindings {entry : Value × Value} (printable : entry.1.Printable)
    (lines : List Line) (header : Option KeyPosition) (fallback : TextRange) :
    Judges (lifecycleEntryFindings lines header fallback entry)
      (∀ hook ∈ lifecycleHooks, entry.1.shown = .ok hook → entry.2.IsHook) := by
  -- The name is printed, and then it is either that of a hook or not.
  obtain ⟨name, shown⟩ := printable.shown_ok
  unfold lifecycleEntryFindings
  rw [shown]
  simp only [Bind.bind, Except.bind, Pure.pure, Except.pure, Except.ok.injEq]
  split
  · rename_i known
    refine judges_ok (errorFree_hookFindings.trans ⟨fun one _ _ _ => one, fun each => ?_⟩)
    exact each name (List.contains_iff_mem.mp known) rfl
  · rename_i unknown
    refine (judges_warningAt _ _).congr (iff_of_true trivial ?_)
    rintro hook member rfl
    exact absurd (List.contains_iff_mem.mpr member) unknown

/-- The lifecycle section is accepted if it is one. -/
theorem judges_checkLifecycle {document : Entries} (printable : (Value.mapping document).Printable)
    (lines : List Line) :
    Judges (checkLifecycle document lines) (valueUnder document "lifecycle").IsLifecycle := by
  have value := printable.valueUnder "lifecycle"
  unfold checkLifecycle
  dsimp only
  generalize valueUnder document "lifecycle" = lifecycle at value ⊢
  -- A mapping is judged entry by entry, and each key has to be shown.
  cases lifecycle with
  | null => exact judges_nil
  | mapping entries =>
    exact judges_gather fun entry member =>
      judges_lifecycleEntryFindings (value.of_mem_mapping member).1 _ _ _
  | _ => exact judges_errorAt _ _

/-- A document with a project is accepted. -/
theorem judges_checkProject (document : Entries) (lines : List Line) :
    Judges (checkProject document lines) (valueUnder document "project").IsGiven := by
  -- The rule asks whether the project is missing, which is the opposite of given.
  rw [← isMissing_eq_false_iff]
  unfold checkProject
  cases (valueUnder document "project").isMissing with
  | false => exact judges_nil.congr (by simp)
  | true => exact (judges_errorAt _ _).congr (by simp)

/-- A wrong version is no error. -/
theorem judges_checkVersion {document : Entries} (printable : (Value.mapping document).Printable)
    (lines : List Line) : Judges (checkVersion document lines) True := by
  -- A printable version is shown and matched, and at worst it is warned of.
  have value := printable.valueUnder "version"
  unfold checkVersion
  split
  · exact judges_nil
  · obtain ⟨text, shown⟩ := value.shown_ok
    rw [shown]
    simp only [Bind.bind, Except.bind, Pure.pure, Except.pure]
    split
    · exact judges_nil
    · exact judges_warningAt _ _

/-- An unknown key is no error. -/
theorem judges_checkUnknownKeys {document : Entries} (printable : (Value.mapping document).Printable)
    (lines : List Line) : Judges (checkUnknownKeys document lines) True := by
  -- Each key can be shown, and at worst it is warned of.
  refine Judges.congr (judges_gather fun entry member => ?_) (iff_of_true (fun _ _ => trivial) trivial)
  obtain ⟨name, shown⟩ := (printable.of_mem_mapping member).1.shown_ok
  unfold unknownKeyFindings
  rw [shown]
  simp only [Bind.bind, Except.bind, Pure.pure, Except.pure]
  split
  · exact judges_nil
  · exact judges_warningAt _ _

/-- A document whose values can be printed gets its findings, and none of them is an error exactly if
the document conforms to the schema. -/
theorem validateDocument_errorFree_iff {document : Entries} (lines : List Line)
    (printable : (Value.mapping document).Printable) :
    ∃ findings, validateDocument document lines = .ok findings ∧
      ((∀ finding ∈ findings, finding.severity ≠ .error) ↔ Conforms document) := by
  have repositories : Judges (checkRepositories document lines) _ :=
    judges_sequenceFindings printable fun span anchor index item _ =>
      judges_repositoryFindings lines span anchor index item
  have releases : Judges (checkReleases document lines) _ :=
    judges_sequenceFindings printable fun span anchor index _ shown =>
      judges_releaseFindings shown lines span anchor index
  have registries : Judges (checkRegistries document lines) _ :=
    judges_sequenceFindings printable fun _ anchor index item _ => judges_registryFindings anchor index item
  have monitors : Judges (checkMonitors document lines) _ :=
    judges_sequenceFindings printable fun span anchor index _ shown =>
      judges_monitorFindings shown lines span anchor index
  -- The rules are joined in the order in which they are run.
  have judged := (judges_checkProject document lines).join <|
    (judges_checkVersion printable lines).join <|
    repositories.join <| releases.join <| registries.join <| monitors.join <|
    (judges_checkLifecycle printable lines).join <|
    (judges_checkUnknownKeys printable lines).join judges_nil
  obtain ⟨findings, found, free⟩ := judged
  refine ⟨findings, found, free.trans ?_⟩
  constructor
  · intro held
    obtain ⟨project, -, repositories, releases, registries, monitors, lifecycle, -⟩ := held
    exact ⟨project, repositories, registries, releases, monitors, lifecycle⟩
  · intro conforms
    exact ⟨conforms.project, trivial, conforms.repositories, conforms.releases, conforms.registries,
      conforms.monitors, conforms.lifecycle, trivial, trivial⟩

/-- A plan with a release, a monitor and a hook. -/
def smallPlan : Entries :=
  [(.text "project", .text "shop"),
    (.text "releases", .list [.mapping
      [(.text "name", .text "api"), (.text "chart", .mapping [(.text "name", .text "web")]),
        (.text "namespace", .text "shop"), (.text "tags", .list [])]]),
    (.text "monitors", .list [.mapping
      [(.text "name", .text "ping"), (.text "type", .text "http"), (.text "http", .mapping
        [(.text "url", .text "http://shop.test"), (.text "expected_codes", .list [.int 200, .int 204])])]]),
    (.text "lifecycle", .mapping [(.text "pre_up", .list [.text "date"])])]

/-- The small plan is printable, so it is judged. -/
theorem smallPlan_judged :
    (Value.mapping smallPlan).Printable ∧
      ∃ findings, validateDocument smallPlan [] = .ok findings ∧
        ((∀ finding ∈ findings, finding.severity ≠ .error) ↔ Conforms smallPlan) := by
  -- That the plan is printable is computed, and the rest is the general statement.
  have printable : (Value.mapping smallPlan).Printable := ⟨by decide +kernel, by decide +kernel⟩
  exact ⟨printable, validateDocument_errorFree_iff [] printable⟩

end PlanLint
