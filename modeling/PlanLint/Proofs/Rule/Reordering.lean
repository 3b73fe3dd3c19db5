import PlanLint.Document.SameKey
import PlanLint.Proofs.Rule.Fields
import Mathlib.Data.List.Perm.Basic

/-! The order of the entries of a mapping shows in two places only: among the keys of the top level that are not
known, and among the hooks. -/

namespace PlanLint

/-- No key is given twice. -/
def DistinctKeys (entries : Entries) : Prop := entries.Pairwise fun entry later => later.1.sameKey entry.1 = false

instance (entries : Entries) : Decidable (DistinctKeys entries) :=
  inferInstanceAs (Decidable (entries.Pairwise fun entry later => later.1.sameKey entry.1 = false))

/-- Two values are the same, or mappings that give the same entries in some order. -/
def Reordered (value other : Value) : Prop :=
  value = other ∨ ∃ entries others, value = .mapping entries ∧ other = .mapping others ∧
    DistinctKeys entries ∧ entries.Perm others

/-- The entries have the same keys in the same order, and the values under a key are related. -/
def Counterparts (related : Value → Value → Value → Prop) (entries others : Entries) : Prop :=
  List.Forall₂ (fun entry other => entry.1 = other.1 ∧ related entry.1 entry.2 other.2) entries others

/-- Two values are the same, or mappings that give the same entries in some order, where what is under some names
may be reordered too. -/
def ReorderedNested (names : List String) (value other : Value) : Prop :=
  value = other ∨ ∃ entries moved others, value = .mapping entries ∧ other = .mapping others ∧
    DistinctKeys entries ∧ entries.Perm moved ∧
    Counterparts (fun key field rest => if names.any key.isName then Reordered field rest else field = rest)
      moved others

/-- How the items of a section may be reordered: each mapping, and the mappings of charts and of the blocks of
monitors. -/
def SequenceSection.Reordered : SequenceSection → Value → Value → Prop
  | .repositories => PlanLint.Reordered
  | .registries => PlanLint.Reordered
  | .releases => ReorderedNested ["chart"]
  | .monitors => ReorderedNested monitorTypes

/-- How a section may be reordered inside: in its items, or in the commands of its hooks. -/
def PlanSection.Reordered : PlanSection → Value → Value → Prop
  | .sequence part, value, other => SameItems part.Reordered value other
  | .lifecycle, value, other => value = other ∨ ∃ hooks others, value = .mapping hooks ∧ other = .mapping others ∧
      Counterparts (fun _ => SameItems PlanLint.Reordered) hooks others

/-- How what is under a key of the top level may be reordered inside: as the section that it is. -/
def ReorderedUnder (key value other : Value) : Prop :=
  match planSections.find? fun part => key.isName part.key with
  | some part => part.Reordered value other
  | none => value = other

section Entries

variable {related : Value → Value → Value → Prop} {entries others : Entries}

/-- At most one of the entries bears a name. -/
theorem filter_isName_length_le_one (distinct : DistinctKeys entries) (name : String) :
    (entries.filter fun entry => entry.1.isName name).length ≤ 1 := by
  have apart : DistinctKeys (entries.filter fun entry => entry.1.isName name) :=
    List.Pairwise.sublist List.filter_sublist distinct
  have named : ∀ entry ∈ entries.filter fun entry => entry.1.isName name, entry.1 = .text name :=
    fun entry member => isName_iff.mp (List.mem_filter.mp member).2
  generalize entries.filter (fun entry => entry.1.isName name) = kept at apart named
  -- The first two of them would have one key.
  match kept with
  | [] => exact Nat.zero_le 1
  | [_] => exact Nat.le_refl 1
  | first :: second :: _ =>
    have differ := (List.pairwise_cons.mp apart).1 second (by simp)
    rw [named first (by simp), named second (by simp)] at differ
    simp [Value.sameKey] at differ

/-- Entries with distinct keys have the same under each name in any order. -/
theorem valueUnder_eq_of_perm (distinct : DistinctKeys entries) (moved : entries.Perm others) (name : String) :
    valueUnder others name = valueUnder entries name := by
  have kept := moved.filter fun entry => entry.1.isName name
  have few := filter_isName_length_le_one distinct name
  -- What bears the name is one entry or none, so there is only one order for it.
  have same : (entries.filter fun entry => entry.1.isName name) =
      others.filter fun entry => entry.1.isName name := by
    generalize (entries.filter fun entry => entry.1.isName name) = own at kept few
    match own with
    | [] => exact kept.nil_eq
    | [_] => exact (List.perm_singleton.mp kept.symm).symm
  unfold valueUnder
  rw [← List.head?_filter, ← List.head?_filter, same]

/-- Under each name are counterparts. -/
theorem Counterparts.valueUnder (kept : Counterparts related entries others)
    (same : ∀ key value, related key value value) (name : String) :
    related (.text name) (valueUnder entries name) (valueUnder others name) := by
  -- The first entry under the name counts, and it is at the same place in both.
  induction kept with
  | nil => exact same _ _
  | @cons entry other entries others pair _ ih =>
    obtain ⟨key, inner⟩ := pair
    rw [valueUnder_cons, valueUnder_cons, ← key]
    cases named : entry.1.isName name with
    -- The head decides for both, since the two heads share the key.
    | true => exact isName_iff.mp named ▸ inner
    | false => exact ih

/-- What entries give rise to stays if it does for counterparts. -/
theorem Counterparts.map_eq {α : Type} (kept : Counterparts related entries others) {find : Value × Value → α}
    (same : ∀ key value other, related key value other → find (key, other) = find (key, value)) :
    others.map find = entries.map find := by
  -- Counterparts stand at the same places, so the images are compared one by one.
  induction kept with
  | nil => rfl
  | @cons entry other entries others pair _ ih =>
    obtain ⟨key, inner⟩ := pair
    have found := same _ _ _ inner
    rw [List.map_cons, List.map_cons, ih, ← found, key]

end Entries

section Values

variable {value other : Value}

/-- A reordered mapping has the same fields. -/
theorem Reordered.sameFields (reordered : Reordered value other) : SameFields value other := by
  -- Where keys are distinct, no entry stands in front of another with its key.
  obtain same | ⟨entries, others, whole, also, distinct, moved⟩ := reordered
  · exact .inl same
  · exact .inr ⟨entries, others, whole, also, valueUnder_eq_of_perm distinct moved⟩

/-- So it does but for what is under the names that may be reordered too. -/
theorem ReorderedNested.sameNested {names : List String} (reordered : ReorderedNested names value other) :
    SameNested names value other := by
  obtain same | ⟨entries, moved, others, whole, also, distinct, order, kept⟩ := reordered
  · exact .inl same
  have under := kept.valueUnder (fun key field => by
    by_cases named : names.any key.isName = true
    · rw [if_pos named]
      exact .inl rfl
    · rw [if_neg named])
  -- The entries are put in order first, and then each is compared with its counterpart.
  simp only [valueUnder_eq_of_perm distinct order] at under
  refine .inr ⟨entries, others, whole, also, fun name member => ?_, fun name absent => ?_⟩
  · have reordered := under name
    rw [if_pos (any_isName_text_iff.mpr member)] at reordered
    exact reordered.sameFields
  · have same := under name
    rw [if_neg (any_isName_text_iff.not.mpr absent)] at same
    exact same.symm

/-- A reordered item holds the same where the rule of its section looks. -/
theorem SequenceSection.Reordered.sameItem {part : SequenceSection} (reordered : part.Reordered value other) :
    part.SameItem value other := by
  -- Two sections have items with mappings of their own inside.
  cases part with
  | repositories => exact PlanLint.Reordered.sameFields reordered
  | registries => exact PlanLint.Reordered.sameFields reordered
  | releases => exact ReorderedNested.sameNested reordered
  | monitors => exact ReorderedNested.sameNested reordered

end Values

section Gathering

variable {α : Type} (find : α → Findings)

/-- What is gathered from one item is what is found for it. -/
theorem gather_singleton (item : α) : gather find [item] = find item := by
  rw [gather, gather]
  -- Nothing is found behind the item, so what is found for it is all.
  cases find item with
  | error cause => rfl
  | ok found => simp [Bind.bind, Except.bind, Pure.pure, Except.pure]

/-- Items in another order give the same findings in another order, if they give any. -/
theorem exists_gather_perm {items others : List α} (moved : items.Perm others) {found : List Diagnostic}
    (gathered : gather find items = .ok found) : ∃ other, gather find others = .ok other ∧ found.Perm other := by
  -- Each item has its run of findings, and the runs follow the items.
  obtain ⟨runs, each, rfl⟩ := gather_eq_ok_iff.mp gathered
  obtain ⟨followed, same, order⟩ := List.perm_comp_forall₂ moved.symm each
  exact ⟨followed.flatten, gather_eq_ok_iff.mpr ⟨followed, same, rfl⟩, order.symm.flatten⟩

end Gathering

/-- The checks that run before that of the lifecycle section. -/
def checksBeforeHooks : List Check :=
  [checkProject, checkVersion, checkRepositories, checkReleases, checkRegistries, checkMonitors]

section Plan

variable (lines : List Line) {document others : Entries}

/-- What is found for a document is what the checks before that of the hooks find, what the hooks give rise to, and
what the keys of the top level do. -/
theorem validateDocument_eq_between (document : Entries) :
    validateDocument document lines =
      between (gather (fun check => check document lines) checksBeforeHooks) (checkLifecycle document lines)
        (checkUnknownKeys document lines) := by
  -- The check of the hooks is the last one but the scan of the keys.
  have order : checks = checksBeforeHooks ++ checkLifecycle :: [checkUnknownKeys] := rfl
  rw [validateDocument, order, gather_append_cons, gather_singleton]

/-- Each check before that of the hooks reads a single value, which is not that of the hooks. -/
theorem exists_readsOnly_of_mem {check : Check} (member : check ∈ checksBeforeHooks) :
    ∃ name, name ≠ "lifecycle" ∧ check.ReadsOnly name := by
  -- One case for each of the six checks.
  simp only [checksBeforeHooks, List.mem_cons, List.not_mem_nil, or_false] at member
  rcases member with rfl | rfl | rfl | rfl | rfl | rfl
  · exact ⟨_, by decide, readsOnly_checkProject⟩
  · exact ⟨_, by decide, readsOnly_checkVersion⟩
  · exact ⟨_, by decide, (PlanSection.sequence .repositories).readsOnly_check⟩
  · exact ⟨_, by decide, (PlanSection.sequence .releases).readsOnly_check⟩
  · exact ⟨_, by decide, (PlanSection.sequence .registries).readsOnly_check⟩
  · exact ⟨_, by decide, (PlanSection.sequence .monitors).readsOnly_check⟩

/-- The check of a section finds the same if the section is reordered inside. -/
theorem PlanSection.check_of_reordered (part : PlanSection)
    (reordered : part.Reordered (valueUnder document part.key) (valueUnder others part.key)) :
    part.check others lines = part.check document lines := by
  cases part with
  | sequence part =>
    -- The items keep their places, and each holds the same where its rule looks.
    refine check_sequence_of_sameItems lines part ?_
    obtain same | ⟨items, moved, whole, also, each⟩ := reordered
    · exact .inl same
    · exact .inr ⟨items, moved, whole, also, each.imp fun _ _ => SequenceSection.Reordered.sameItem⟩
  | lifecycle =>
    obtain same | ⟨hooks, moved, whole, also, kept⟩ := reordered
    · exact PlanSection.lifecycle.readsOnly_check _ _ lines same.symm
    -- The hooks stay where they are, and their commands have the same fields.
    rw [PlanSection.check, checkLifecycle_of_mapping lines whole, checkLifecycle_of_mapping lines also]
    refine gather_eq_of_map_eq _ (kept.map_eq fun key commands rest reordered => ?_)
    refine hookEntryFindings_of_sameItems lines key ?_
    obtain same | ⟨items, moved, whole, also, each⟩ := reordered
    · exact .inl same
    · exact .inr ⟨items, moved, whole, also, each.imp fun _ _ => Reordered.sameFields⟩

/-- Any value is a reordering of itself. -/
theorem reorderedUnder_refl (key value : Value) : ReorderedUnder key value value := by
  -- A value that is the same is one of the ways to reorder it.
  unfold ReorderedUnder
  split
  · rename_i part _
    cases part with
    | sequence part => exact .inl rfl
    | lifecycle => exact .inl rfl
  · rfl

/-- Under the key of a section is the section. -/
theorem reorderedUnder_key (part : PlanSection) : ReorderedUnder (.text part.key) = part.Reordered := by
  -- One case for each section; its key is the only one that names it.
  cases part with
  | sequence part => cases part <;> rfl
  | lifecycle => rfl

/-- A document has the same faults in the same places if its sections are reordered inside. -/
theorem validateDocument_of_counterparts (kept : Counterparts ReorderedUnder document others) :
    validateDocument others lines = validateDocument document lines := by
  have under := kept.valueUnder reorderedUnder_refl
  -- What is under a name that is no section's stays as it is.
  have same : ∀ name, (planSections.find? fun part => (Value.text name).isName part.key) = none →
      valueUnder document name = valueUnder others name := by
    intro name none
    have reordered := under name
    unfold ReorderedUnder at reordered
    rwa [none] at reordered
  refine gather_congr _ fun check member => ?_
  simp only [checks_eq, List.mem_append, List.mem_map, List.mem_cons, List.not_mem_nil, or_false] at member
  obtain ((rfl | rfl) | ⟨part, listed, rfl⟩) | rfl := member
  · exact readsOnly_checkProject _ _ lines (same "project" rfl).symm
  · exact readsOnly_checkVersion _ _ lines (same "version" rfl).symm
  · exact part.check_of_reordered lines (reorderedUnder_key part ▸ under part.key)
  · -- The check for unknown keys reads the keys, and these are the same in the same order.
    exact gather_eq_of_map_eq _ (kept.map_eq fun _ _ _ _ => rfl)

/-- A document whose entries are in another order has the same faults in the same places, but for keys that are not
known: these are reported in their new order. -/
theorem validateDocument_of_perm (distinct : DistinctKeys document) (moved : document.Perm others) :
    validateDocument others lines =
      between (gather (fun check => check document lines) checksBeforeHooks) (checkLifecycle document lines)
        (gather (fun entry => unknownKeyFindings lines entry.1) others) := by
  have same := valueUnder_eq_of_perm distinct moved
  -- All but the check for unknown keys look up names, under which nothing changes.
  have before : ∀ check ∈ checksBeforeHooks, check others lines = check document lines := by
    intro check member
    obtain ⟨name, -, reads⟩ := exists_readsOnly_of_mem member
    exact reads _ _ lines (same name)
  have hooks := PlanSection.lifecycle.readsOnly_check _ _ lines (same "lifecycle")
  rw [validateDocument_eq_between, gather_congr _ before, show checkLifecycle others lines = _ from hooks]
  rfl

/-- What is found for the hooks is found in their order, and no other order changes what else is found. -/
theorem validateDocument_of_hooks {hooks : Entries} (there : valueUnder document "lifecycle" = .mapping hooks)
    (moved : Entries) :
    validateDocument (setUnder document "lifecycle" (.mapping moved)) lines =
      between (gather (fun check => check document lines) checksBeforeHooks)
        (gather (hookEntryFindings lines) moved) (checkUnknownKeys document lines) := by
  -- The checks before the hooks look up other names than that of the lifecycle section.
  have before : ∀ check ∈ checksBeforeHooks,
      check (setUnder document "lifecycle" (.mapping moved)) lines = check document lines := by
    intro check member
    obtain ⟨name, other, reads⟩ := exists_readsOnly_of_mem member
    exact reads.ignores other document _ lines
  have now := valueUnder_setUnder document "lifecycle" (.mapping moved) (by simp [there])
  rw [validateDocument_eq_between, gather_congr _ before, checkLifecycle_of_mapping lines now,
    ignores_checkUnknownKeys "lifecycle" document _ lines]

end Plan

/-- The order of entries shows nowhere but among the keys of the top level and among the hooks. -/
structure FindsInAnyOrder (lines : List Line) : Prop where
  /-- Whichever mappings are reordered inside the sections, all faults stay in their places. -/
  inside : ∀ document others, Counterparts ReorderedUnder document others →
    validateDocument others lines = validateDocument document lines
  /-- In whatever order the keys of the top level are, what they give rise to follows their order, and everything
  before that stays. -/
  topLevel : ∀ document others, DistinctKeys document → document.Perm others →
    validateDocument others lines =
      between (gather (fun check => check document lines) checksBeforeHooks) (checkLifecycle document lines)
        (gather (fun entry => unknownKeyFindings lines entry.1) others)
  /-- What the lifecycle section gives rise to are the runs of its hooks in their order. -/
  hooks : ∀ document hooks, valueUnder document "lifecycle" = .mapping hooks →
    validateDocument document lines = between (gather (fun check => check document lines) checksBeforeHooks)
      (gather (hookEntryFindings lines) hooks) (checkUnknownKeys document lines)
  /-- In whatever order the hooks are, their runs follow it, none is lost, and everything around them stays. -/
  movedHooks : ∀ document hooks moved, valueUnder document "lifecycle" = .mapping hooks → hooks.Perm moved →
    validateDocument (setUnder document "lifecycle" (.mapping moved)) lines =
        between (gather (fun check => check document lines) checksBeforeHooks)
          (gather (hookEntryFindings lines) moved) (checkUnknownKeys document lines) ∧
      ∀ found, gather (hookEntryFindings lines) hooks = .ok found →
        ∃ other, gather (hookEntryFindings lines) moved = .ok other ∧ found.Perm other

/-- In any text the faults of a document are found whatever the order of its entries. -/
theorem findsInAnyOrder (lines : List Line) : FindsInAnyOrder lines where
  inside _ _ kept := validateDocument_of_counterparts lines kept
  topLevel _ _ distinct moved := validateDocument_of_perm lines distinct moved
  hooks document _ there := by
    -- The findings about hooks are gathered between the other checks.
    rw [validateDocument_eq_between, checkLifecycle_of_mapping lines there]
  movedHooks _ _ moved there order :=
    ⟨validateDocument_of_hooks lines there moved, fun _ found => exists_gather_perm _ order found⟩

/-- A plan with some hooks and with two keys that are not known. -/
def loosePlan (hooks : Entries) : Entries :=
  [(.text "extra", .null), (.text "project", .text "shop"), (.text "lifecycle", .mapping hooks),
    (.text "other", .null)]

/-- Two hooks with faults, the second of them in the entries of its command. -/
def faultyHooks (command : Entries) : Entries :=
  [(.text "pre_up", .int 1), (.text "post_up", .list [.mapping command])]

/-- A command whose arguments are no sequence. -/
def faultyCommand : Entries := [(.text "args", .int 1), (.text "cmd", .text "date")]

/-- The fault of the first hook. -/
def hookFault : Diagnostic := errorAt (documentStartRange []) "Lifecycle hook 'pre_up' must be an array"

/-- The fault of the second one. -/
def commandFault : Diagnostic :=
  warningAt (documentStartRange []) "Lifecycle command 'args' in 'post_up' must be an array"

/-- The fault of a key that is not known. -/
def keyFault (name : String) : Diagnostic :=
  warningAt (documentStartRange [])
    ("Unknown top-level key: '" ++ name ++ "'. Valid keys are: " ++ choicesText topLevelKeys)

/-- The order of the command does not show, that of the keys and that of the hooks do. -/
theorem loosePlan_findsInAnyOrder :
    Counterparts ReorderedUnder (loosePlan (faultyHooks faultyCommand))
        (loosePlan (faultyHooks faultyCommand.reverse)) ∧
      DistinctKeys (loosePlan (faultyHooks faultyCommand)) ∧
      validateDocument (loosePlan (faultyHooks faultyCommand.reverse)) [] =
        .ok [hookFault, commandFault, keyFault "extra", keyFault "other"] ∧
      validateDocument (loosePlan (faultyHooks faultyCommand)).reverse [] =
        .ok [hookFault, commandFault, keyFault "other", keyFault "extra"] ∧
      validateDocument (loosePlan (faultyHooks faultyCommand).reverse) [] =
        .ok [commandFault, hookFault, keyFault "extra", keyFault "other"] := by
  -- The entries of the command are reordered, and everything around it is its own counterpart.
  have command : Reordered (.mapping faultyCommand) (.mapping faultyCommand.reverse) :=
    .inr ⟨_, _, rfl, rfl, by decide, (List.reverse_perm _).symm⟩
  have commands : Counterparts (fun _ => SameItems Reordered) (faultyHooks faultyCommand)
      (faultyHooks faultyCommand.reverse) :=
    .cons ⟨rfl, .inl rfl⟩ (.cons ⟨rfl, .inr ⟨_, _, rfl, rfl, .cons command .nil⟩⟩ .nil)
  have kept : Counterparts ReorderedUnder (loosePlan (faultyHooks faultyCommand))
      (loosePlan (faultyHooks faultyCommand.reverse)) :=
    .cons ⟨rfl, rfl⟩ (.cons ⟨rfl, rfl⟩ (.cons ⟨rfl, .inr ⟨_, _, rfl, rfl, commands⟩⟩ (.cons ⟨rfl, rfl⟩ .nil)))
  have distinct : DistinctKeys (loosePlan (faultyHooks faultyCommand)) := by decide
  refine ⟨kept, distinct, ?command, ?keys, ?hooks⟩
  case command =>
    rw [(findsInAnyOrder []).inside _ _ kept]
    decide +kernel
  case keys =>
    rw [(findsInAnyOrder []).topLevel _ _ distinct (List.reverse_perm _).symm]
    decide +kernel
  case hooks =>
    have there : setUnder (loosePlan (faultyHooks faultyCommand)) "lifecycle"
        (.mapping (faultyHooks faultyCommand).reverse) = loosePlan (faultyHooks faultyCommand).reverse := rfl
    rw [← there, ((findsInAnyOrder []).movedHooks _ _ _ rfl (List.reverse_perm _).symm).1]
    decide +kernel

end PlanLint
