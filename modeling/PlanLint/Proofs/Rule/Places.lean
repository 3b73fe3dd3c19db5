import PlanLint.Rule.Monitors
import PlanLint.Rule.Repositories
import PlanLint.Proofs.Rule.Findings

/-! The rules for single items read the text only through the ranges that they point at. -/

namespace PlanLint

/-- A key that does not start like a comment. -/
abbrev IsPlainKey (key : List Char) : Prop := key.head? ≠ some '#'

/-- The key of a field of an item, or the fallback if the item or the field was not found. -/
def fieldKeyRange (lines : List Line) (span : Option LineSpan) (key : List Char)
    (fallback : TextRange) : TextRange :=
  match span.bind (locateKeyInSpan lines key) with
  | none => fallback
  | some position => position.keyRange

/-- From the value of a field of an item to the end of its line, or the fallback. -/
def fieldRestRange (lines : List Line) (span : Option LineSpan) (key : List Char)
    (fallback : TextRange) : TextRange :=
  ((span.bind (locateKeyInSpan lines key)).bind (lineRemainderRange lines)).getD fallback

/-- The range of an expected code of a monitor. -/
def expectedCodeRange (lines : List Line) (span : Option LineSpan) (fallback : TextRange) (index : Nat) :
    TextRange :=
  codeRange lines (span.bind (locateKeyInSpanUnder lines "expected_codes".toList "http".toList)) fallback index

/-- What a rule for an item can point at is in relation in two texts. -/
structure ItemPlaces (R : TextRange → TextRange → Prop) (lines₁ lines₂ : List Line)
    (span₁ span₂ : Option LineSpan) (anchor₁ anchor₂ : TextRange) : Prop where
  anchor : R anchor₁ anchor₂
  value : ∀ key, IsPlainKey key →
    R (fieldValueRange lines₁ span₁ key anchor₁) (fieldValueRange lines₂ span₂ key anchor₂)
  key : ∀ key, IsPlainKey key →
    R (fieldKeyRange lines₁ span₁ key anchor₁) (fieldKeyRange lines₂ span₂ key anchor₂)
  rest : ∀ key, IsPlainKey key →
    R (fieldRestRange lines₁ span₁ key anchor₁) (fieldRestRange lines₂ span₂ key anchor₂)

/-- What the rule for a monitor can point at inside its block is in relation in two texts. -/
structure NestedPlaces (R : TextRange → TextRange → Prop) (lines₁ lines₂ : List Line)
    (span₁ span₂ : Option LineSpan) (anchor₁ anchor₂ : TextRange) : Prop where
  value : ∀ key, IsPlainKey key →
    R (nestedValueRange lines₁ span₁ key "http".toList anchor₁)
      (nestedValueRange lines₂ span₂ key "http".toList anchor₂)
  code : ∀ index,
    R (expectedCodeRange lines₁ span₁
        (nestedValueRange lines₁ span₁ "expected_codes".toList "http".toList anchor₁) index)
      (expectedCodeRange lines₂ span₂
        (nestedValueRange lines₂ span₂ "expected_codes".toList "http".toList anchor₂) index)

/-- Without a span the places of an item are its anchor. -/
theorem itemPlaces_anchor (lines : List Line) (anchor : TextRange) :
    ItemPlaces (fun range _ => range = anchor) lines lines none none anchor anchor :=
  ⟨rfl, fun _ _ => rfl, fun _ _ => rfl, fun _ _ => rfl⟩

/-- So are those inside its block. -/
theorem nestedPlaces_anchor (lines : List Line) (anchor : TextRange) :
    NestedPlaces (fun range _ => range = anchor) lines lines none none anchor anchor :=
  ⟨fun _ _ => rfl, fun _ => rfl⟩

section Located

variable {P : TextRange → Prop} {lines : List Line} {span : Option LineSpan} {anchor : TextRange}

/-- The range of a key that may not be found has any property that the fallback and the key's range have. -/
theorem range_or {found : Option KeyPosition} {fallback : TextRange} {range : KeyPosition → TextRange} :
    P fallback → (∀ position, found = some position → P (range position)) →
      P (match found with
        | none => fallback
        | some position => range position) := by
  -- Either the key was found, or the fallback stands in for it.
  intro fallen here
  cases found with
  | none => exact fallen
  | some position => exact here position rfl

/-- The places of an item have any property that its anchor and the ranges of its located fields have. -/
theorem itemPlaces_of_located (anchored : P anchor)
    (located : ∀ key position, span.bind (locateKeyInSpan lines key) = some position →
      P position.valueRange ∧ P position.keyRange ∧
        ∀ range, lineRemainderRange lines position = some range → P range) :
    ItemPlaces (fun range _ => P range) lines lines span span anchor anchor := by
  refine ⟨anchored, ?_, ?_, ?_⟩
  · intro key _
    exact range_or (P := P) anchored fun position found => (located key position found).1
  · intro key _
    exact range_or (P := P) anchored fun position found => (located key position found).2.1
  · intro key _
    unfold fieldRestRange
    -- The rest of a line is there only for a field that is, on a line that the text has.
    cases rest : (span.bind (locateKeyInSpan lines key)).bind (lineRemainderRange lines) with
    | none => exact anchored
    | some range =>
      obtain ⟨position, found, rest⟩ := Option.bind_eq_some_iff.mp rest
      exact (located key position found).2.2 range rest

end Located

section Items

variable {R : TextRange → TextRange → Prop} {lines₁ lines₂ : List Line} {span₁ span₂ : Option LineSpan}
  {anchor₁ anchor₂ : TextRange}

/-- Missing fields are reported at the anchor. -/
theorem alike_missingFields (anchors : R anchor₁ anchor₂) (entry : Entries) (fields : List String)
    (label : String) :
    AllAlike R (missingFields entry fields label anchor₁) (missingFields entry fields label anchor₂) := by
  -- There is one error for each field, all at the same place.
  exact allAlike_map fun field _ => alike_errorAt anchors _

/-- An item that is no mapping is reported at the anchor. -/
theorem alike_notAnObject (anchors : R anchor₁ anchor₂) (label : String) (index : Nat) :
    Alike R (notAnObject label index anchor₁) (notAnObject label index anchor₂) :=
  .single (alike_errorAt anchors _)

/-- Credentials that are not whole are reported at the anchor. -/
theorem alike_authFindings (anchors : R anchor₁ anchor₂) (label : String) (entry : Entries) :
    AllAlike R (authFindings label entry anchor₁) (authFindings label entry anchor₂) := by
  -- There is one warning at most.
  unfold authFindings
  split
  · exact .cons (alike_warningAt anchors _) .nil
  · exact .nil

/-- A wrong URL is reported from its value on. -/
theorem alike_repositoryUrlFindings (places : ItemPlaces R lines₁ lines₂ span₁ span₂ anchor₁ anchor₂)
    (url : Value) :
    AllAlike R (repositoryUrlFindings lines₁ span₁ anchor₁ url)
      (repositoryUrlFindings lines₂ span₂ anchor₂ url) := by
  -- A URL that is given and no URL is warned of once.
  unfold repositoryUrlFindings
  split
  · exact .nil
  · exact .cons (alike_warningAt (places.rest _ (by decide)) _) .nil

/-- The rule for a repository only points at its places. -/
theorem alike_repositoryFindings (places : ItemPlaces R lines₁ lines₂ span₁ span₂ anchor₁ anchor₂)
    (index : Nat) (item : Value) :
    Alike R (repositoryFindings lines₁ span₁ anchor₁ index item)
      (repositoryFindings lines₂ span₂ anchor₂ index item) := by
  -- Only a mapping has fields to look up; anything else is reported at the anchor.
  cases item with
  | mapping repository =>
    have fields := alike_missingFields places.anchor repository repositoryFields "Repository"
    have url := alike_repositoryUrlFindings places (valueUnder repository "url")
    have auth := alike_authFindings places.anchor "Repository" repository
    exact .ok (List.rel_append (List.rel_append fields url) auth)
  | _ => exact alike_notAnObject places.anchor _ _

/-- The rule for a registry only points at its anchor. -/
theorem alike_registryFindings (anchors : R anchor₁ anchor₂) (index : Nat) (item : Value) :
    Alike R (registryFindings anchor₁ index item) (registryFindings anchor₂ index item) := by
  -- Both rules for a registry report at the item as a whole.
  cases item with
  | mapping registry =>
    have fields := alike_missingFields anchors registry registryFields "Registry"
    have auth := alike_authFindings anchors "Registry" registry
    exact .ok (List.rel_append fields auth)
  | _ => exact alike_notAnObject anchors _ _

/-- A wrong chart is reported at its key or its value. -/
theorem alike_chartFindings (places : ItemPlaces R lines₁ lines₂ span₁ span₂ anchor₁ anchor₂)
    (chart : Value) :
    AllAlike R (chartFindings lines₁ span₁ anchor₁ chart) (chartFindings lines₂ span₂ anchor₂ chart) := by
  -- What is reported is up to the chart alone, and where up to the text.
  cases chart with
  | null => exact .nil
  | text s => exact .nil
  | mapping entries =>
    simp only [chartFindings]
    split
    · exact .cons (alike_errorAt (places.key "chart".toList (by decide)) _) .nil
    · exact .nil
  | _ => exact .cons (alike_errorAt (places.value _ (by decide)) _) .nil

/-- A field that is no list is reported at its value. -/
theorem alike_arrayFindings (places : ItemPlaces R lines₁ lines₂ span₁ span₂ anchor₁ anchor₂)
    {field : String} (plain : IsPlainKey field.toList) (value : Value) :
    AllAlike R (arrayFindings lines₁ span₁ anchor₁ field value)
      (arrayFindings lines₂ span₂ anchor₂ field value) := by
  -- Only a value that is neither a list nor nothing is reported.
  cases value with
  | null => exact .nil
  | list items => exact .nil
  | _ => exact .cons (alike_errorAt (places.value _ plain) _) .nil

/-- A wrong choice is reported at its value. -/
theorem alike_choiceFindings (places : ItemPlaces R lines₁ lines₂ span₁ span₂ anchor₁ anchor₂)
    {field : String} (plain : IsPlainKey field.toList) (choices : List String) (value : Value) :
    Alike R (choiceFindings lines₁ span₁ anchor₁ field choices value)
      (choiceFindings lines₂ span₂ anchor₂ field choices value) := by
  -- Only a choice that is given and not allowed is reported, and shown.
  unfold choiceFindings
  split
  · exact .nil
  · split
    · exact .nil
    · exact alike_warningShowing (places.value _ plain) _ _ _

/-- The rule for a release only points at its places. -/
theorem alike_releaseFindings (places : ItemPlaces R lines₁ lines₂ span₁ span₂ anchor₁ anchor₂)
    (index : Nat) (item : Value) :
    Alike R (releaseFindings lines₁ span₁ anchor₁ index item)
      (releaseFindings lines₂ span₂ anchor₂ index item) := by
  cases item with
  | mapping release =>
    -- None of the fields that are looked up starts like a comment.
    have choicePlain : ∀ field ∈ releaseChoiceFields, IsPlainKey field.1.toList := by decide
    have arrayPlain : ∀ field ∈ releaseArrayFields, IsPlainKey field.toList := by decide
    have fields := alike_missingFields places.anchor release releaseFields "Release"
    have chart := alike_chartFindings places (valueUnder release "chart")
    have arrays := allAlike_flatMap fun field member =>
      alike_arrayFindings places (arrayPlain field member) (valueUnder release field)
    refine Alike.bind (alike_gather fun field member =>
      alike_choiceFindings places (choicePlain field member) field.2 (valueUnder release field.1)) ?_
    intro shown other choices
    exact .ok (List.rel_append (List.rel_append (List.rel_append fields chart) arrays) choices)
  | _ => exact alike_notAnObject places.anchor _ _

/-- A wrong status code is reported at its own place. -/
theorem alike_codeFindings (nested : NestedPlaces R lines₁ lines₂ span₁ span₂ anchor₁ anchor₂)
    (codes : List Value) :
    Alike R
      (codeFindings lines₁ span₁
        (nestedValueRange lines₁ span₁ "expected_codes".toList "http".toList anchor₁) codes)
      (codeFindings lines₂ span₂
        (nestedValueRange lines₂ span₂ "expected_codes".toList "http".toList anchor₂) codes) := by
  -- Each code is reported at its own line if it is found, else with the field.
  refine alike_gather fun code _ => ?_
  split
  · exact .nil
  · exact alike_warningShowing (nested.code code.2) _ _ _

/-- A wrong method is reported at its value. -/
theorem alike_methodFindings (nested : NestedPlaces R lines₁ lines₂ span₁ span₂ anchor₁ anchor₂)
    (method : Value) :
    Alike R (methodFindings lines₁ span₁ anchor₁ method) (methodFindings lines₂ span₂ anchor₂ method) := by
  -- Only a method that is given and not allowed is reported, and shown.
  unfold methodFindings
  split
  · exact .nil
  · split
    · exact .nil
    · exact alike_warningShowing (nested.value _ (by decide)) _ _ _

/-- The rule for expected codes points at their value and at each of them. -/
theorem alike_expectedCodesFindings
    (nested : NestedPlaces R lines₁ lines₂ span₁ span₂ anchor₁ anchor₂) (codes : Value) :
    Alike R (expectedCodesFindings lines₁ span₁ anchor₁ codes)
      (expectedCodesFindings lines₂ span₂ anchor₂ codes) := by
  -- A list is reported code by code, anything else as a whole.
  cases codes with
  | null => exact .nil
  | list codes => exact alike_codeFindings nested codes
  | _ => exact .single (alike_errorAt (nested.value _ (by decide)) _)

/-- The rule for an HTTP block only points at the places inside it and at the anchor. -/
theorem alike_httpFindings (anchors : R anchor₁ anchor₂)
    (nested : NestedPlaces R lines₁ lines₂ span₁ span₂ anchor₁ anchor₂) (http : Entries) :
    Alike R (httpFindings lines₁ span₁ anchor₁ http) (httpFindings lines₂ span₂ anchor₂ http) := by
  -- The findings of each field in turn, in the order of the rule.
  have fields := alike_missingFields anchors http httpMonitorFields "HTTP monitor"
  refine (alike_methodFindings nested (valueUnder http "method")).bind fun _ _ method => ?_
  refine (alike_expectedCodesFindings nested (valueUnder http "expected_codes")).bind fun _ _ codes => ?_
  exact .ok (List.rel_append (List.rel_append fields method) codes)

/-- The rule for the block of a type only points at the places of the monitor and of its block. -/
theorem alike_typeFindings (places : ItemPlaces R lines₁ lines₂ span₁ span₂ anchor₁ anchor₂)
    (nested : NestedPlaces R lines₁ lines₂ span₁ span₂ anchor₁ anchor₂) (monitor : Entries) :
    Alike R (typeFindings lines₁ span₁ anchor₁ monitor) (typeFindings lines₂ span₂ anchor₂ monitor) := by
  -- Both rules see the same type, so they go on with the same block.
  unfold typeFindings
  dsimp only
  split
  · exact .nil
  · split
    · cases valueUnder monitor "http" with
      | null => exact alike_httpFindings places.anchor nested []
      | mapping http => exact alike_httpFindings places.anchor nested http
      | _ => exact .single (alike_errorAt (places.value _ (by decide)) _)
    · split
      · cases valueUnder monitor "prometheus" with
        | null => exact .ok (alike_missingFields places.anchor _ _ _)
        | mapping prometheus => exact .ok (alike_missingFields places.anchor _ _ _)
        | _ => exact .single (alike_errorAt (places.value _ (by decide)) _)
      · exact alike_warningShowing (places.value _ (by decide)) _ _ _

/-- The rule for a monitor only points at its places and at those of its block. -/
theorem alike_monitorFindings (places : ItemPlaces R lines₁ lines₂ span₁ span₂ anchor₁ anchor₂)
    (nested : NestedPlaces R lines₁ lines₂ span₁ span₂ anchor₁ anchor₂) (index : Nat) (item : Value) :
    Alike R (monitorFindings lines₁ span₁ anchor₁ index item)
      (monitorFindings lines₂ span₂ anchor₂ index item) := by
  -- What is found behind the missing fields depends on the type.
  cases item with
  | mapping monitor =>
    have fields := alike_missingFields places.anchor monitor monitorFields "Monitor"
    refine (alike_typeFindings places nested monitor).bind fun _ _ byType => ?_
    exact .ok (List.rel_append fields byType)
  | _ => exact alike_notAnObject places.anchor _ _

end Items

end PlanLint
