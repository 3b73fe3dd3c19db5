import PlanLint.Proofs.Rule.Sections
import Mathlib.Data.List.Nodup

/-! What is found for a section, an item or a hook does not depend on the rest of the document. -/

namespace PlanLint

section Gathering

/-- Findings between those before and those behind them; the first that break off end them all. -/
def between (before own behind : Findings) : Findings := do
  let first ← before
  let middle ← own
  let last ← behind
  return first ++ middle ++ last

/-- Findings one behind the other. -/
def joined (first second : Findings) : Findings := do
  let shown ← first
  let later ← second
  return shown ++ later

/-- Findings inside other findings are between all that are before them and all that are behind. -/
theorem between_between (before inner own next behind : Findings) :
    between before (between inner own next) behind =
      between (joined before inner) own (joined next behind) := by
  -- Both sides look at the five in the same order, so they end where the first of them breaks off.
  rcases before with cause | before
  · rfl
  rcases inner with cause | inner
  · rfl
  rcases own with cause | own
  · rfl
  rcases next with cause | next
  · rfl
  rcases behind with cause | behind
  · rfl
  simp [between, joined, Bind.bind, Except.bind, Pure.pure, Except.pure]

variable {α : Type} (find : α → Findings)

/-- What is gathered from an item is between what is gathered before it and behind it. -/
theorem gather_append_cons (front : List α) (item : α) (back : List α) :
    gather find (front ++ item :: back) = between (gather find front) (find item) (gather find back) := by
  -- Wherever something breaks off, in front of the item, at it or behind it, both sides end there.
  induction front with
  | nil =>
    simp only [List.nil_append, gather]
    rcases find item with cause | own
    · rfl
    · cases gather find back <;> rfl
  | cons first front ih =>
    rw [List.cons_append, gather, gather, ih]
    rcases find first with cause | shown
    · rfl
    rcases gather find front with cause | before
    · rfl
    rcases find item with cause | own
    · rfl
    rcases gather find back with cause | behind
    · rfl
    simp [between, Bind.bind, Except.bind, Pure.pure, Except.pure]

/-- An item that takes the place of another one changes what is gathered from it, and nothing else. -/
theorem gather_set (items : List α) {index : Nat} (inside : index < items.length) (item : α) :
    gather find (items.set index item) =
      between (gather find (items.take index)) (find item) (gather find (items.drop (index + 1))) := by
  -- The item stands between those in front of it and those behind it.
  rw [List.set_eq_take_append_cons_drop, if_pos inside, gather_append_cons]

/-- The same for numbered items. -/
theorem gather_zipIdx_set (numbered : α × Nat → Findings) (items : List α) {index : Nat}
    (inside : index < items.length) (item : α) :
    gather numbered (items.set index item).zipIdx =
      between (gather numbered (items.take index).zipIdx) (numbered (item, index))
        (gather numbered ((items.drop (index + 1)).zipIdx (index + 1))) := by
  -- The items in front keep their numbers, so the one that is set has its index as before.
  have place : (items.take index).length = index := by
    rw [List.length_take]
    omega
  rw [List.set_eq_take_append_cons_drop, if_pos inside, List.zipIdx_append, List.zipIdx_cons, place,
    Nat.zero_add, gather_append_cons]

/-- Gathering from images is gathering by way of them. -/
theorem gather_map {β : Type} (image : β → α) (items : List β) :
    gather find (items.map image) = gather (fun item => find (image item)) items := by
  -- Induction on the items, each of which is taken to its image first.
  induction items with
  | nil => rfl
  | cons item items ih => rw [List.map_cons, gather, gather, ih]

/-- What is gathered depends on what is found alone. -/
theorem gather_eq_of_map_eq {other : α → Findings} {items others : List α}
    (same : items.map find = others.map other) : gather find items = gather other others := by
  -- Both are gathered from the list of what is found for each item.
  have gathered := congrArg (gather id) same
  rw [gather_map, gather_map] at gathered
  exact gathered

/-- So it does if something else is looked for in the same items. -/
theorem gather_congr {other : α → Findings} {items : List α} (same : ∀ item ∈ items, find item = other item) :
    gather find items = gather other items :=
  gather_eq_of_map_eq find (List.map_congr_left same)

end Gathering

section Replacement

/-- The entries with another value under a name. -/
def setUnder (entries : Entries) (name : String) (value : Value) : Entries :=
  entries.map fun entry => if entry.1.isName name then (entry.1, value) else entry

variable (entries : Entries) (name : String) (value : Value)

/-- No key is changed. -/
theorem map_fst_setUnder : (setUnder entries name value).map (·.1) = entries.map (·.1) := by
  -- Whether an entry is the one that is set, its key stays.
  rw [setUnder, List.map_map]
  refine List.map_congr_left fun entry _ => ?_
  simp only [Function.comp_apply]
  split <;> rfl

/-- Each entry is changed by itself. -/
theorem setUnder_cons (entry : Value × Value) :
    setUnder (entry :: entries) name value =
      (if entry.1.isName name then (entry.1, value) else entry) :: setUnder entries name value := rfl

/-- Another value stands under the name, if one does. -/
theorem valueUnder_setUnder (there : valueUnder entries name ≠ .null) :
    valueUnder (setUnder entries name value) name = value := by
  -- Every entry under the name has the value, so the first one has, which counts.
  induction entries with
  | nil => exact absurd rfl there
  | cons entry entries ih =>
    rw [valueUnder_cons] at there
    rw [setUnder_cons, valueUnder_cons]
    cases named : entry.1.isName name with
    | true => simp [named]
    | false => simpa [named] using ih (by simpa [named] using there)

/-- Under every other name stands what stood there. -/
theorem valueUnder_setUnder_of_ne {other : String} (different : other ≠ name) :
    valueUnder (setUnder entries name value) other = valueUnder entries other := by
  induction entries with
  | nil => rfl
  | cons entry entries ih =>
    rw [setUnder_cons, valueUnder_cons, valueUnder_cons, ih]
    cases named : entry.1.isName name with
    | true =>
      -- An entry under the one name is not under the other.
      have elsewhere : entry.1.isName other = false := by
        rw [isName_iff.mp named, Value.isName, beq_eq_false_iff_ne]
        exact different.symm
      simp [elsewhere]
    | false => rfl

end Replacement

section Reading

/-- A check that reads nothing of a document but the value under a name. -/
def Check.ReadsOnly (check : Check) (name : String) : Prop :=
  ∀ (document other : Entries) (lines : List Line), valueUnder document name = valueUnder other name →
    check document lines = check other lines

/-- A check that finds the same whatever value stands under a name, if one does. -/
def Check.Ignores (check : Check) (name : String) : Prop :=
  ∀ (document : Entries) (value : Value) (lines : List Line),
    check (setUnder document name value) lines = check document lines

/-- A check that only reads the value under one name ignores the one under another. -/
theorem Check.ReadsOnly.ignores {check : Check} {read name : String} (reads : check.ReadsOnly read)
    (different : read ≠ name) : check.Ignores name :=
  fun document value lines => reads _ _ lines (valueUnder_setUnder_of_ne document name value different)

/-- The rule for the project only reads the project. -/
theorem readsOnly_checkProject : Check.ReadsOnly checkProject "project" := by
  -- The two documents give the same under that name.
  intro document other lines same
  rw [checkProject, checkProject, same]

/-- The rule for the version only reads the version. -/
theorem readsOnly_checkVersion : Check.ReadsOnly checkVersion "version" := by
  -- The two documents give the same under that name.
  intro document other lines same
  rw [checkVersion, checkVersion, same]

/-- The check of a section only reads the section. -/
theorem PlanSection.readsOnly_check (part : PlanSection) : part.check.ReadsOnly part.key := by
  intro document other lines same
  -- Only the value under its key is looked up by a check; the rest it gets from the lines.
  cases part with
  | sequence part =>
    rw [PlanSection.key] at same
    rw [check_sequence, check_sequence, sequenceFindings, sequenceFindings, same]
  | lifecycle =>
    rw [PlanSection.key] at same
    simp only [PlanSection.check, checkLifecycle, same]

/-- The rule for the keys of the top level reads no value. -/
theorem ignores_checkUnknownKeys (name : String) : Check.Ignores checkUnknownKeys name := by
  intro document value lines
  -- What is found for an entry depends on its key alone, and the keys stay.
  have keys : ∀ entries : Entries,
      checkUnknownKeys entries lines = gather (unknownKeyFindings lines) (entries.map (·.1)) :=
    fun entries => (gather_map _ _ entries).symm
  rw [keys, keys, map_fst_setUnder]

/-- The sections in the order of their checks. -/
def planSections : List PlanSection :=
  [.sequence .repositories, .sequence .releases, .sequence .registries, .sequence .monitors, .lifecycle]

/-- The checks of the sections are between those of the top level. -/
theorem checks_eq :
    checks = [checkProject, checkVersion] ++ planSections.map PlanSection.check ++ [checkUnknownKeys] := rfl

/-- No section is left out. -/
theorem mem_planSections (part : PlanSection) : part ∈ planSections := by
  -- There are as many sections as there are constructors.
  cases part with
  | sequence part => cases part <;> decide
  | lifecycle => decide

/-- Every check but that of a section ignores the section. -/
theorem exists_checks_around (part : PlanSection) :
    ∃ earlier later, checks = earlier ++ part.check :: later ∧
      ∀ check ∈ earlier ++ later, check.Ignores part.key := by
  obtain ⟨front, back, split⟩ := List.append_of_mem (mem_planSections part)
  refine ⟨[checkProject, checkVersion] ++ front.map PlanSection.check,
    back.map PlanSection.check ++ [checkUnknownKeys], by simp [checks_eq, split], ?_⟩
  -- No two sections have one key, and none has that of a rule for the top level.
  have keys : ("project" :: "version" :: planSections.map PlanSection.key).Nodup := by decide
  have listed : part.key ∈ planSections.map PlanSection.key := List.mem_map_of_mem (mem_planSections part)
  obtain ⟨project, rest⟩ := List.nodup_cons.mp keys
  obtain ⟨version, distinct⟩ := List.nodup_cons.mp rest
  rw [split, List.map_append, List.map_cons, List.nodup_middle, ← List.map_append] at distinct
  have others : ∀ other ∈ front ++ back, other.check.Ignores part.key := fun other member =>
    other.readsOnly_check.ignores fun same =>
      (List.nodup_cons.mp distinct).1 (same ▸ List.mem_map_of_mem member)
  intro check member
  simp only [List.mem_append, List.mem_map, List.mem_cons, List.not_mem_nil, or_false] at member
  rcases member with ((rfl | rfl) | ⟨other, before, rfl⟩) | ⟨other, behind, rfl⟩ | rfl
  · exact readsOnly_checkProject.ignores fun same => project (List.mem_cons_of_mem _ (same ▸ listed))
  · exact readsOnly_checkVersion.ignores fun same => version (same ▸ listed)
  · exact others other (List.mem_append_left _ before)
  · exact others other (List.mem_append_right _ behind)
  · exact ignores_checkUnknownKeys _

/-- What is found for a document is what its section gives rise to, between findings that the section has no
part in. -/
theorem exists_validateDocument_between (part : PlanSection) (document : Entries) (lines : List Line) :
    ∃ before behind, validateDocument document lines = between before (part.check document lines) behind ∧
      ∀ value, validateDocument (setUnder document part.key value) lines =
        between before (part.check (setUnder document part.key value) lines) behind := by
  obtain ⟨earlier, later, split, ignores⟩ := exists_checks_around part
  refine ⟨gather (fun check => check document lines) earlier, gather (fun check => check document lines) later,
    ?_, fun value => ?_⟩
  · rw [validateDocument, split, gather_append_cons]
  · -- The checks around that of the section find the same for every value.
    have same : ∀ run : List Check, (∀ check ∈ run, check ∈ earlier ++ later) →
        gather (fun check => check (setUnder document part.key value) lines) run =
          gather (fun check => check document lines) run := fun run among =>
      gather_congr _ fun check member => ignores check (among check member) document value lines
    rw [validateDocument, split, gather_append_cons, same earlier fun _ => List.mem_append_left _,
      same later fun _ => List.mem_append_right _]

end Reading

/-- What the check of a sequence finds for the item with an index. -/
def SequenceSection.findingsAt (part : SequenceSection) (lines : List Line) (index : Nat) (item : Value) :
    Findings :=
  let span := (itemSpans lines part.key.toList)[index]?
  part.itemFindings lines span (itemRange lines span part.key.toList) index item

/-- What the lifecycle check finds for an entry. -/
def hookEntryFindings (lines : List Line) (entry : Value × Value) : Findings :=
  lifecycleEntryFindings lines (locateKey lines "lifecycle".toList)
    (sectionFallback lines "lifecycle".toList) entry

section Parts

variable {document : Entries} (lines : List Line)

/-- The check of a sequence gathers what is found for its items. -/
theorem check_sequence_of_list {part : SequenceSection} {items : List Value}
    (there : valueUnder document part.key = .list items) :
    (PlanSection.sequence part).check document lines =
      gather (fun item => part.findingsAt lines item.2 item.1) items.zipIdx := by
  -- A list is what the rule goes through item by item.
  rw [check_sequence, sequenceFindings, there]
  rfl

/-- The lifecycle check gathers what is found for its entries. -/
theorem checkLifecycle_of_mapping {hooks : Entries}
    (there : valueUnder document "lifecycle" = .mapping hooks) :
    checkLifecycle document lines = gather (hookEntryFindings lines) hooks := by
  -- A mapping is what the rule goes through entry by entry.
  rw [checkLifecycle, there]
  rfl

/-- If the check of a section reports on a part of it between findings that the part is not needed for, then so
does the validation of the document. -/
theorem exists_validateDocument_between_part {α : Type} (part : PlanSection) (content : α → Value)
    (found : α → Findings) {front back : Findings}
    (each : ∀ (other : Entries) (a : α), valueUnder other part.key = content a →
      part.check other lines = between front (found a) back)
    {own : α} (there : valueUnder document part.key = content own) (given : content own ≠ .null) :
    ∃ before behind, validateDocument document lines = between before (found own) behind ∧
      ∀ a, validateDocument (setUnder document part.key (content a)) lines =
        between before (found a) behind := by
  -- Around the part there is the rest of its section, and around that the other checks.
  obtain ⟨before, behind, whole, replaced⟩ := exists_validateDocument_between part document lines
  refine ⟨joined before front, joined back behind, ?_, fun a => ?_⟩
  · rw [whole, each document own there, between_between]
  · have now := valueUnder_setUnder document part.key (content a) (there ▸ given)
    rw [replaced, each _ a now, between_between]

/-- Another item in the place of one changes what is found for the document at that item alone. -/
theorem exists_validateDocument_between_item {part : SequenceSection} {items : List Value}
    (there : valueUnder document part.key = .list items) {index : Nat} (inside : index < items.length) :
    ∃ before behind,
      validateDocument document lines = between before (part.findingsAt lines index items[index]) behind ∧
      ∀ item, validateDocument (setUnder document part.key (.list (items.set index item))) lines =
        between before (part.findingsAt lines index item) behind := by
  -- The item itself is one of those that can take its place.
  have own : valueUnder document part.key = .list (items.set index items[index]) := by
    rw [List.set_getElem_self, there]
  exact exists_validateDocument_between_part lines (.sequence part) (fun item => .list (items.set index item))
    (part.findingsAt lines index)
    (fun _ item now => (check_sequence_of_list lines now).trans (gather_zipIdx_set _ items inside item))
    own (by simp)

/-- Another entry in the place of a hook changes it at that hook alone. -/
theorem exists_validateDocument_between_hook {hooks : Entries}
    (there : valueUnder document "lifecycle" = .mapping hooks) {index : Nat} (inside : index < hooks.length) :
    ∃ before behind,
      validateDocument document lines = between before (hookEntryFindings lines hooks[index]) behind ∧
      ∀ entry, validateDocument (setUnder document "lifecycle" (.mapping (hooks.set index entry))) lines =
        between before (hookEntryFindings lines entry) behind := by
  -- As for an item: the hook itself can take its own place.
  have own : valueUnder document "lifecycle" = .mapping (hooks.set index hooks[index]) := by
    rw [List.set_getElem_self, there]
  exact exists_validateDocument_between_part lines .lifecycle (fun entry => .mapping (hooks.set index entry))
    (hookEntryFindings lines)
    (fun _ entry now => (checkLifecycle_of_mapping lines now).trans (gather_set _ hooks inside entry))
    own (by simp)

end Parts

/-- What is found for each part of a document is found for that part alone, in the order of the parts. -/
structure FoundLocally (lines : List Line) : Prop where
  /-- The check of a section tells apart no two documents that have the same section. -/
  sections : ∀ (part : PlanSection) (document other : Entries),
    valueUnder document part.key = valueUnder other part.key →
    part.check document lines = part.check other lines
  /-- The check of a sequence gathers what an index and the item there give rise to. -/
  items : ∀ (part : SequenceSection) (document : Entries) (items : List Value),
    valueUnder document part.key = .list items → (PlanSection.sequence part).check document lines =
      gather (fun item => part.findingsAt lines item.2 item.1) items.zipIdx
  /-- The lifecycle check gathers what an entry gives rise to. -/
  hooks : ∀ (document hooks : Entries), valueUnder document "lifecycle" = .mapping hooks →
    checkLifecycle document lines = gather (hookEntryFindings lines) hooks
  /-- Whatever takes the place of an item, everything found before it and behind it stays. -/
  replacedItem : ∀ (part : SequenceSection) (document : Entries) (items : List Value) (index : Nat)
    (inside : index < items.length), valueUnder document part.key = .list items →
    ∃ before behind,
      validateDocument document lines = between before (part.findingsAt lines index items[index]) behind ∧
      ∀ item, validateDocument (setUnder document part.key (.list (items.set index item))) lines =
        between before (part.findingsAt lines index item) behind
  /-- So it does whatever takes the place of a hook. -/
  replacedHook : ∀ (document hooks : Entries) (index : Nat) (inside : index < hooks.length),
    valueUnder document "lifecycle" = .mapping hooks →
    ∃ before behind,
      validateDocument document lines = between before (hookEntryFindings lines hooks[index]) behind ∧
      ∀ entry, validateDocument (setUnder document "lifecycle" (.mapping (hooks.set index entry))) lines =
        between before (hookEntryFindings lines entry) behind

/-- Whatever else is in a document, a section, an item and a hook are found to have the same faults in the same
places. -/
theorem foundLocally (lines : List Line) : FoundLocally lines where
  sections part document other same := part.readsOnly_check document other lines same
  items _ _ _ there := check_sequence_of_list lines there
  hooks _ _ there := checkLifecycle_of_mapping lines there
  replacedItem _ _ _ _ inside there := exists_validateDocument_between_item lines there inside
  replacedHook _ _ _ inside there := exists_validateDocument_between_hook lines there inside

/-- A plan with two releases, of which the second lacks a chart, and with a hook that is no sequence. -/
def faultyPlan (first : Value) : Entries :=
  [(.text "project", .text "shop"),
    (.text "releases", .list
      [first, .mapping [(.text "name", .text "web"), (.text "namespace", .text "shop")]]),
    (.text "lifecycle", .mapping [(.text "pre_up", .int 1)])]

/-- Its lines, if the first release is a text. -/
def faultyPlanLines : List Line :=
  ["project: shop", "releases:", "- api", "- name: web", "  namespace: shop", "lifecycle:",
    "  pre_up: 1"].map String.toList

/-- What is found behind the first release. -/
def faultyPlanLater : List Diagnostic :=
  [errorAt ⟨⟨3, 0⟩, ⟨4, 17⟩⟩ "Release missing required field: chart",
    errorAt (.onLine 6 10 11) "Lifecycle hook 'pre_up' must be an array"]

/-- Another first release changes what is found for it, and what is found behind it stays. -/
theorem faultyPlan_foundLocally :
    valueUnder (faultyPlan (.text "api")) "releases" =
        .list [.text "api", .mapping [(.text "name", .text "web"), (.text "namespace", .text "shop")]] ∧
      (∃ before behind, ∀ first, validateDocument (faultyPlan first) faultyPlanLines =
        between before (SequenceSection.releases.findingsAt faultyPlanLines 0 first) behind) ∧
      validateDocument (faultyPlan (.text "api")) faultyPlanLines =
        .ok (errorAt (.onLine 2 0 5) "Release 0 must be an object" :: faultyPlanLater) ∧
      validateDocument (faultyPlan (.mapping [(.text "chart", .text "api")])) faultyPlanLines =
        .ok (errorAt (.onLine 2 0 5) "Release missing required field: name" ::
          errorAt (.onLine 2 0 5) "Release missing required field: namespace" :: faultyPlanLater) := by
  -- That only the first release counts is the general statement, what is found is computed.
  obtain ⟨before, behind, -, each⟩ := (foundLocally faultyPlanLines).replacedItem .releases
    (faultyPlan (.text "api")) _ 0 (by decide) rfl
  exact ⟨rfl, ⟨before, behind, each⟩, by decide +kernel, by decide +kernel⟩

end PlanLint
