import PlanLint.Document.SameKey
import PlanLint.Proofs.Rule.Fields

/-! An entry whose value is null counts as one that is not there. -/

namespace PlanLint

/-- Where a value may do without entries that are null. -/
inductive Outline where
  /-- Nowhere. -/
  | whole
  /-- In the items, if it is a sequence. -/
  | sequence (item : Outline)
  /-- Under some of the keys, and in what is under a key, if it is a mapping. -/
  | mapping (optional : Value → Prop) (field : Value → Outline)

/-- Entries without some that are null and whose keys are optional. A key that is dropped is not given again, so
nothing else comes to be under it. What is under the keys that stay may do without entries itself. -/
inductive WithoutNulls (optional : Value → Prop) (inner : Value → Value → Value → Prop) :
    Entries → Entries → Prop where
  | nil : WithoutNulls optional inner [] []
  | keep {key value other : Value} {entries rest : Entries} (same : inner key value other)
      (others : WithoutNulls optional inner entries rest) :
      WithoutNulls optional inner ((key, value) :: entries) ((key, other) :: rest)
  | drop {key : Value} {entries rest : Entries} (allowed : optional key)
      (alone : ∀ entry ∈ entries, entry.1.sameKey key = false)
      (others : WithoutNulls optional inner entries rest) :
      WithoutNulls optional inner ((key, .null) :: entries) rest

/-- The one value is the other without some entries that are null, where the outline lets it do without. -/
def Outline.Drops : Outline → Value → Value → Prop
  | .whole, value, rest => value = rest
  | .sequence item, value, rest => value = rest ∨
      ∃ items others, value = .list items ∧ rest = .list others ∧ List.Forall₂ item.Drops items others
  | .mapping optional field, value, rest => value = rest ∨
      ∃ entries others, value = .mapping entries ∧ rest = .mapping others ∧
        WithoutNulls optional (fun key => (field key).Drops) entries others

section Entries

variable {optional : Value → Prop} {inner : Value → Value → Value → Prop} {entries rest : Entries}

/-- If no entry has the key of a name, nothing is under the name. -/
theorem valueUnder_eq_null {name : String} (alone : ∀ entry ∈ entries, entry.1.sameKey (.text name) = false) :
    valueUnder entries name = .null := by
  induction entries with
  | nil => rfl
  | cons entry entries ih =>
    -- A text is the same key as itself, so an entry under the name would have the key.
    have unnamed : entry.1.isName name = false := by
      rw [Bool.eq_false_iff, ne_eq, isName_iff]
      intro named
      have own := alone entry (by simp)
      simp [named, Value.sameKey] at own
    rw [valueUnder_cons, unnamed]
    exact ih fun other member => alone other (by simp [member])

/-- Under each name is what was there, without some of its entries: nothing for an entry that is dropped. -/
theorem WithoutNulls.valueUnder (without : WithoutNulls optional inner entries rest)
    (same : ∀ key value, inner key value value) (name : String) :
    inner (.text name) (valueUnder entries name) (valueUnder rest name) := by
  -- The first entry under the name counts, so the entries are looked through one after the other.
  induction without with
  | nil => exact same _ _
  | @keep key value other entries rest inside _ ih =>
    rw [valueUnder_cons, valueUnder_cons]
    cases named : key.isName name with
    | true => exact isName_iff.mp named ▸ inside
    | false => exact ih
  | @drop key entries rest _ alone _ ih =>
    rw [valueUnder_cons]
    cases named : key.isName name with
    | true =>
      -- Nothing else is under the name, so nothing is there among the rest.
      have absent := valueUnder_eq_null (isName_iff.mp named ▸ alone)
      rwa [absent] at ih
    | false => exact ih

/-- What is gathered from entries stays, if it is nothing for those that are dropped. -/
theorem WithoutNulls.gather_eq (without : WithoutNulls optional inner entries rest)
    {find : Value × Value → Findings} (silent : ∀ key, optional key → find (key, .null) = .ok [])
    (same : ∀ key value other, inner key value other → find (key, other) = find (key, value)) :
    gather find rest = gather find entries := by
  -- A dropped entry has an empty run of findings.
  induction without with
  | nil => rfl
  | keep inside _ ih => rw [gather, gather, ih, same _ _ _ inside]
  | @drop key entries rest allowed _ _ ih =>
    rw [gather, silent key allowed, ih]
    cases gather find entries <;> rfl

/-- If no key is given twice, any entries that are null and have optional keys may be dropped together. -/
theorem withoutNulls_filter (distinct : entries.Pairwise fun entry later => later.1.sameKey entry.1 = false)
    (same : ∀ key value, inner key value value) (dropped : Value × Value → Bool)
    (allowed : ∀ entry ∈ entries, dropped entry = true → entry.2 = .null ∧ optional entry.1) :
    WithoutNulls optional inner entries (entries.filter fun entry => !dropped entry) := by
  induction entries with
  | nil => exact .nil
  | cons entry entries ih =>
    obtain ⟨key, value⟩ := entry
    obtain ⟨alone, distinct⟩ := List.pairwise_cons.mp distinct
    have others := ih distinct fun other member => allowed other (by simp [member])
    -- That no key is given twice is what allows an entry to go: nothing else comes under its name.
    cases drops : dropped (key, value) with
    | true =>
      obtain ⟨rfl, may⟩ := allowed _ (by simp) drops
      rw [List.filter_cons_of_neg (by simp [drops])]
      exact .drop may alone others
    | false =>
      rw [List.filter_cons_of_pos (by simp [drops])]
      exact .keep (same key value) others

end Entries

namespace Outline

variable {optional : Value → Prop} {field : Value → Outline} {value rest : Value}

/-- Nothing need be dropped. -/
theorem drops_refl (outline : Outline) (value : Value) : outline.Drops value value := by
  -- A value that is the same is one of the ways to drop something.
  cases outline with
  | whole => rfl
  | sequence item => exact .inl rfl
  | mapping optional field => exact .inl rfl

/-- A mapping stays one, and under each name is what was there, without what it may do without. -/
theorem Drops.fields (drops : (mapping optional field).Drops value rest) :
    value = rest ∨ ∃ entries others, value = .mapping entries ∧ rest = .mapping others ∧
      ∀ name, (field (.text name)).Drops (valueUnder entries name) (valueUnder others name) := by
  -- What the two mappings have in common is looked at name by name.
  obtain same | ⟨entries, others, full, less, without⟩ := drops
  · exact .inl same
  · exact .inr ⟨entries, others, full, less, without.valueUnder fun key => (field key).drops_refl⟩

end Outline

/-- A mapping that may do without any null entry. -/
def fieldsOutline : Outline := .mapping (fun _ => True) fun _ => .whole

/-- A mapping that may do without any null entry, and so may the mappings under some names. -/
def nestedOutline (names : List String) : Outline :=
  .mapping (fun _ => True) fun key => if names.any key.isName then fieldsOutline else .whole

/-- Where the items of a section may do without null entries. -/
def SequenceSection.itemOutline : SequenceSection → Outline
  | .repositories => fieldsOutline
  | .registries => fieldsOutline
  | .releases => nestedOutline ["chart"]
  | .monitors => nestedOutline monitorTypes

/-- A key that prints as one of some names. -/
def Value.IsOneOf (names : List String) (key : Value) : Prop := ∃ name ∈ names, key.shown = .ok name

/-- Where the lifecycle section may do without null entries: a known hook, or what is in a command. -/
def lifecycleOutline : Outline := .mapping (·.IsOneOf lifecycleHooks) fun _ => .sequence fieldsOutline

/-- Where a section may do without null entries. -/
def PlanSection.outline : PlanSection → Outline
  | .sequence part => .sequence part.itemOutline
  | .lifecycle => lifecycleOutline

/-- Where what is under a key of the top level may do without null entries: in a section. -/
def planField (key : Value) : Outline :=
  match planSections.find? fun part => key.isName part.key with
  | some part => part.outline
  | none => .whole

/-- Under the key of a section is the section. -/
theorem planField_key (part : PlanSection) : planField (.text part.key) = part.outline := by
  -- One case for each section; its key is the only one that names it.
  cases part with
  | sequence part => cases part <;> rfl
  | lifecycle => rfl

/-- Where a plan may do without null entries: a known key, or what is in a section. -/
def planOutline : Outline := .mapping (·.IsOneOf topLevelKeys) planField

section Items

variable {value rest item other : Value}

/-- A mapping that does without any null entries has the same fields. -/
theorem sameFields_of_drops (drops : fieldsOutline.Drops value rest) : SameFields value rest := by
  -- Any field may be left out of this outline, so that each one is the same or null.
  obtain same | ⟨entries, others, full, less, each⟩ := drops.fields
  · exact .inl same
  · exact .inr ⟨entries, others, full, less, fun name => (each name).symm⟩

/-- So it does if it has mappings under some names that may do without entries, but for what is under these. -/
theorem sameNested_of_drops {names : List String} (drops : (nestedOutline names).Drops value rest) :
    SameNested names value rest := by
  obtain same | ⟨entries, others, full, less, each⟩ := drops.fields
  · exact .inl same
  -- The field of a name is that of a nested mapping exactly if the name is among the names.
  refine .inr ⟨entries, others, full, less, fun name member => ?_, fun name absent => ?_⟩
  · have drops := each name
    rw [if_pos (any_isName_text_iff.mpr member)] at drops
    exact sameFields_of_drops drops
  · have drops := each name
    rw [if_neg (any_isName_text_iff.not.mpr absent)] at drops
    exact drops.symm

/-- The items of each section hold the same where their rule looks. -/
theorem sameItem_of_drops (part : SequenceSection) (drops : part.itemOutline.Drops item other) :
    part.SameItem item other := by
  -- Releases and monitors have mappings in their items, repositories and registries have none.
  cases part with
  | repositories => exact sameFields_of_drops drops
  | registries => exact sameFields_of_drops drops
  | releases => exact sameNested_of_drops drops
  | monitors => exact sameNested_of_drops drops

/-- A sequence keeps its items, each without what it may do without. -/
theorem sameItems_of_drops {outline : Outline} {same : Value → Value → Prop}
    (each : ∀ item other, outline.Drops item other → same item other)
    (drops : (Outline.sequence outline).Drops value rest) : SameItems same value rest := by
  -- Items are compared in pairs, as they are dropped from.
  obtain same | ⟨items, others, full, less, dropped⟩ := drops
  · exact .inl same
  · exact .inr ⟨items, others, full, less, dropped.imp each⟩

end Items

section Plan

variable (lines : List Line) {document others : Entries}

/-- Nothing is found for a known hook that is null. -/
theorem hookEntryFindings_null {key : Value} (known : key.IsOneOf lifecycleHooks) :
    hookEntryFindings lines (key, .null) = .ok [] := by
  -- The key is not reported, and a value that is null is not looked at.
  obtain ⟨hook, listed, shown⟩ := known
  simp [hookEntryFindings, lifecycleEntryFindings, shown, listed, hookFindings, Bind.bind, Except.bind,
    Pure.pure, Except.pure]

/-- Nothing is found for a known key of the top level. -/
theorem unknownKeyFindings_known {key : Value} (known : key.IsOneOf topLevelKeys) :
    unknownKeyFindings lines key = .ok [] := by
  -- The key is shown as a name of the list, so the rule looks no further.
  obtain ⟨name, listed, shown⟩ := known
  simp [unknownKeyFindings, shown, listed, Bind.bind, Except.bind, Pure.pure, Except.pure]

/-- The check of a section finds the same where the section does without null entries. -/
theorem PlanSection.check_of_drops (part : PlanSection)
    (drops : part.outline.Drops (valueUnder document part.key) (valueUnder others part.key)) :
    part.check others lines = part.check document lines := by
  cases part with
  | sequence part =>
    exact check_sequence_of_sameItems lines part (sameItems_of_drops (fun _ _ => sameItem_of_drops part) drops)
  | lifecycle =>
    obtain same | ⟨hooks, fewer, full, less, without⟩ := drops
    · exact PlanSection.lifecycle.readsOnly_check _ _ lines same.symm
    -- Hooks can be dropped as well as entries of their commands.
    rw [PlanSection.check, checkLifecycle_of_mapping lines full, checkLifecycle_of_mapping lines less]
    exact without.gather_eq (fun _ known => hookEntryFindings_null lines known) fun key _ _ drops =>
      hookEntryFindings_of_sameItems lines key (sameItems_of_drops (fun _ _ => sameFields_of_drops) drops)

/-- A plan has the same faults in the same places whichever null entries are dropped: of those under known keys
and hooks, in the items of sections, in charts and the blocks of monitors, and in commands. -/
theorem validateDocument_of_drops (drops : planOutline.Drops (.mapping document) (.mapping others)) :
    validateDocument others lines = validateDocument document lines := by
  obtain same | ⟨entries, fewer, full, less, without⟩ := drops
  · rw [Value.mapping.inj same]
  obtain rfl := Value.mapping.inj full
  obtain rfl := Value.mapping.inj less
  -- Every check but the last looks up a single name.
  have under := without.valueUnder fun key => Outline.drops_refl _
  refine gather_congr _ fun check member => ?_
  simp only [checks_eq, List.mem_append, List.mem_map, List.mem_cons, List.not_mem_nil, or_false] at member
  obtain ((rfl | rfl) | ⟨part, listed, rfl⟩) | rfl := member
  · exact readsOnly_checkProject _ _ lines (under "project").symm
  · exact readsOnly_checkVersion _ _ lines (under "version").symm
  · exact part.check_of_drops lines (planField_key part ▸ under part.key)
  · exact without.gather_eq (fun key known => unknownKeyFindings_known lines known) fun _ _ _ _ => rfl

end Plan

/-- A plan that spells out much that it does not have. -/
def spelledPlan : Entries :=
  [(.text "project", .text "shop"), (.text "version", .null),
    (.text "releases", .list [.mapping
      [(.text "name", .text "api"), (.text "chart", .mapping [(.text "name", .null), (.text "ref", .text "x")]),
        (.text "namespace", .null), (.text "tags", .null)]]),
    (.text "monitors", .list [.mapping
      [(.text "name", .text "ping"), (.text "type", .text "http"), (.text "http", .mapping
        [(.text "url", .text "x"), (.text "method", .null), (.text "expected_codes", .null)])]]),
    (.text "lifecycle", .mapping [(.text "pre_up", .null), (.text "post_up", .list
      [.text "date", .mapping [(.text "cmd", .text "date"), (.text "args", .null)]])])]

/-- The same plan without any of that. -/
def briefPlan : Entries :=
  [(.text "project", .text "shop"),
    (.text "releases", .list [.mapping
      [(.text "name", .text "api"), (.text "chart", .mapping [(.text "ref", .text "x")])]]),
    (.text "monitors", .list [.mapping
      [(.text "name", .text "ping"), (.text "type", .text "http"),
        (.text "http", .mapping [(.text "url", .text "x")])]]),
    (.text "lifecycle", .mapping [(.text "post_up", .list
      [.text "date", .mapping [(.text "cmd", .text "date")]])])]

/-- The two are found to have the same faults. -/
theorem spelledPlan_of_drops :
    planOutline.Drops (.mapping spelledPlan) (.mapping briefPlan) ∧
      validateDocument briefPlan [] = validateDocument spelledPlan [] ∧
      validateDocument briefPlan [] = .ok
        [errorAt (documentStartRange []) "Release missing required field: namespace",
          errorAt (documentStartRange []) "Release chart missing required field: name",
          errorAt (documentStartRange []) "HTTP monitor missing required field: expected_codes"] := by
  have chart : fieldsOutline.Drops (.mapping [(.text "name", .null), (.text "ref", .text "x")])
      (.mapping [(.text "ref", .text "x")]) :=
    .inr ⟨_, _, rfl, rfl, .drop trivial (by decide) (.keep rfl .nil)⟩
  have block : fieldsOutline.Drops
      (.mapping [(.text "url", .text "x"), (.text "method", .null), (.text "expected_codes", .null)])
      (.mapping [(.text "url", .text "x")]) :=
    .inr ⟨_, _, rfl, rfl, .keep rfl (.drop trivial (by decide) (.drop trivial (by decide) .nil))⟩
  have command : fieldsOutline.Drops (.mapping [(.text "cmd", .text "date"), (.text "args", .null)])
      (.mapping [(.text "cmd", .text "date")]) :=
    .inr ⟨_, _, rfl, rfl, withoutNulls_filter (by decide) (fun _ _ => rfl) (·.1.isName "args")
      (by simp [Value.isName])⟩
  -- The outline is followed from the top level down to what each section may do without.
  have drops : planOutline.Drops (.mapping spelledPlan) (.mapping briefPlan) := by
    refine .inr ⟨_, _, rfl, rfl, .keep rfl <| .drop ⟨"version", by decide, rfl⟩ (by decide) <|
      .keep ?releases <| .keep ?monitors <| .keep ?lifecycle .nil⟩
    case releases =>
      refine .inr ⟨_, _, rfl, rfl, .cons (.inr ⟨_, _, rfl, rfl, ?_⟩) .nil⟩
      exact .keep rfl <| .keep chart <| .drop trivial (by decide) <| .drop trivial (by decide) .nil
    case monitors =>
      refine .inr ⟨_, _, rfl, rfl, .cons (.inr ⟨_, _, rfl, rfl, ?_⟩) .nil⟩
      exact .keep rfl <| .keep rfl <| .keep block .nil
    case lifecycle =>
      refine .inr ⟨_, _, rfl, rfl, .drop ⟨"pre_up", by decide, rfl⟩ (by decide) <| .keep ?_ .nil⟩
      exact .inr ⟨_, _, rfl, rfl, .cons (Outline.drops_refl _ _) (.cons command .nil)⟩
  exact ⟨drops, validateDocument_of_drops [] drops, by decide +kernel⟩

end PlanLint
