import PlanLint.Rule.Document
import PlanLint.Proofs.Rule.Places

/-! The checks of whole sections read the text only through the ranges that they point at. -/

namespace PlanLint

/-- The sections that are sequences. -/
inductive SequenceSection where
  | repositories
  | registries
  | releases
  | monitors
deriving DecidableEq, Repr

/-- The key of a sequence at the top level. -/
def SequenceSection.key : SequenceSection → String
  | .repositories => "repositories"
  | .registries => "registries"
  | .releases => "releases"
  | .monitors => "monitors"

/-- The rule for the items of a sequence. -/
def SequenceSection.itemFindings (lines : List Line) :
    SequenceSection → Option LineSpan → TextRange → Nat → Value → Findings
  | .repositories => repositoryFindings lines
  | .registries => fun _ => registryFindings
  | .releases => releaseFindings lines
  | .monitors => monitorFindings lines

/-- The sections with rules of their own. -/
inductive PlanSection where
  | sequence (part : SequenceSection)
  | lifecycle
deriving DecidableEq, Repr

/-- The key of a section at the top level. -/
def PlanSection.key : PlanSection → String
  | .sequence part => part.key
  | .lifecycle => "lifecycle"

/-- The check of a section. -/
def PlanSection.check : PlanSection → Check
  | .sequence .repositories => checkRepositories
  | .sequence .registries => checkRegistries
  | .sequence .releases => checkReleases
  | .sequence .monitors => checkMonitors
  | .lifecycle => checkLifecycle

/-- The checks of sequences differ in their keys and in the rules for their items. -/
theorem check_sequence (part : SequenceSection) (document : Entries) (lines : List Line) :
    (PlanSection.sequence part).check document lines =
      sequenceFindings document lines part.key (part.itemFindings lines) := by
  -- One case for each section, whose check is made of these parts.
  cases part <;> rfl

/-- The key of a hook, or the fallback if the section or the hook was not found. -/
def hookKeyRange (lines : List Line) (header : Option KeyPosition) (hook : List Char)
    (fallback : TextRange) : TextRange :=
  match header.bind (locateChildKey lines hook) with
  | none => fallback
  | some position => position.keyRange

/-- The value of a hook, or the fallback. -/
def hookValueRange (lines : List Line) (header : Option KeyPosition) (hook : List Char)
    (fallback : TextRange) : TextRange :=
  match header.bind (locateChildKey lines hook) with
  | none => fallback
  | some position => position.valueRange

/-- The spans of the commands of a hook; none if its place is not known. -/
def commandSpans (lines : List Line) (position : Option KeyPosition) : List LineSpan :=
  match position with
  | none => []
  | some position => blockItemSpans lines position

/-- The range of a command of a hook. -/
def hookCommandRange (lines : List Line) (header : Option KeyPosition) (hook : List Char)
    (fallback : TextRange) (index : Nat) : TextRange :=
  let position := header.bind (locateChildKey lines hook)
  commandRange lines position (commandSpans lines position) fallback index

/-- What the rules for hooks can point at is in relation in two texts. -/
structure HookPlaces (R : TextRange → TextRange → Prop) (lines₁ lines₂ : List Line)
    (header₁ header₂ : Option KeyPosition) (fallback₁ fallback₂ : TextRange) : Prop where
  key : ∀ hook, R (hookKeyRange lines₁ header₁ hook fallback₁) (hookKeyRange lines₂ header₂ hook fallback₂)
  value : ∀ hook,
    R (hookValueRange lines₁ header₁ hook fallback₁) (hookValueRange lines₂ header₂ hook fallback₂)
  command : ∀ hook index,
    R (hookCommandRange lines₁ header₁ hook fallback₁ index)
      (hookCommandRange lines₂ header₂ hook fallback₂ index)

/-- What the check of a section can point at is in relation in two texts. -/
structure SectionPlaces (R : TextRange → TextRange → Prop) (lines₁ lines₂ : List Line)
    (key : List Char) : Prop where
  value : R (sectionValueRange lines₁ key) (sectionValueRange lines₂ key)
  items : ∀ index : Nat, ItemPlaces R lines₁ lines₂ (itemSpans lines₁ key)[index]? (itemSpans lines₂ key)[index]?
    (itemRange lines₁ (itemSpans lines₁ key)[index]? key) (itemRange lines₂ (itemSpans lines₂ key)[index]? key)
  nested : ∀ index : Nat, NestedPlaces R lines₁ lines₂ (itemSpans lines₁ key)[index]?
    (itemSpans lines₂ key)[index]? (itemRange lines₁ (itemSpans lines₁ key)[index]? key)
    (itemRange lines₂ (itemSpans lines₂ key)[index]? key)
  hooks : HookPlaces R lines₁ lines₂ (locateKey lines₁ key) (locateKey lines₂ key)
    (sectionFallback lines₁ key) (sectionFallback lines₂ key)

section Sections

variable {R : TextRange → TextRange → Prop} {lines₁ lines₂ : List Line}

/-- The rule for an item only points at its places, and at those of its block if it is a monitor. -/
theorem alike_itemFindings (part : SequenceSection) {span₁ span₂ : Option LineSpan}
    {anchor₁ anchor₂ : TextRange} (places : ItemPlaces R lines₁ lines₂ span₁ span₂ anchor₁ anchor₂)
    (nested : part = .monitors → NestedPlaces R lines₁ lines₂ span₁ span₂ anchor₁ anchor₂)
    (index : Nat) (item : Value) :
    Alike R (part.itemFindings lines₁ span₁ anchor₁ index item)
      (part.itemFindings lines₂ span₂ anchor₂ index item) := by
  -- Only the rule for monitors looks into a block, and so only that one needs the nested places.
  cases part with
  | repositories => exact alike_repositoryFindings places index item
  | registries => exact alike_registryFindings places.anchor index item
  | releases => exact alike_releaseFindings places index item
  | monitors => exact alike_monitorFindings places (nested rfl) index item

/-- The check of a sequence points at its key's value or at the places of its items. -/
theorem alike_check_sequence (part : SequenceSection) (document : Entries)
    (places : SectionPlaces R lines₁ lines₂ part.key.toList) :
    Alike R ((PlanSection.sequence part).check document lines₁)
      ((PlanSection.sequence part).check document lines₂) := by
  -- Both checks look at the same value, so they take the same branch.
  rw [check_sequence, check_sequence]
  unfold sequenceFindings
  cases valueUnder document part.key with
  | null => exact .nil
  | list items =>
    exact alike_gather fun item _ =>
      alike_itemFindings part (places.items item.2) (fun _ => places.nested item.2) item.2 item.1
  | _ => exact .single (alike_errorAt places.value _)

/-- A wrong command is reported at its own range. -/
theorem alike_commandFindings {anchor₁ anchor₂ : TextRange} (anchors : R anchor₁ anchor₂)
    (hook : String) (command : Value) :
    AllAlike R (commandFindings hook anchor₁ command) (commandFindings hook anchor₂ command) := by
  -- What is wrong with a command is read from the command alone.
  cases command with
  | text s => exact .nil
  | mapping entries =>
    simp only [commandFindings]
    split
    · exact .cons (alike_errorAt anchors _) .nil
    · cases valueUnder entries "args" with
      | null => exact .nil
      | list args => exact .nil
      | _ => exact .cons (alike_warningAt anchors _) .nil
  | _ => exact .cons (alike_errorAt anchors _) .nil

variable {header₁ header₂ : Option KeyPosition} {fallback₁ fallback₂ : TextRange}

/-- The rule for a known hook points at its value or at its commands. -/
theorem alike_hookFindings
    (places : HookPlaces R lines₁ lines₂ header₁ header₂ fallback₁ fallback₂) (hook : String)
    (value : Value) :
    AllAlike R
      (hookFindings hook lines₁ (header₁.bind (locateChildKey lines₁ hook.toList)) fallback₁ value)
      (hookFindings hook lines₂ (header₂.bind (locateChildKey lines₂ hook.toList)) fallback₂ value) := by
  -- Whether commands or the hook itself are reported is read from the value, which is the same for both.
  cases value with
  | null => exact .nil
  | list commands =>
    exact allAlike_flatMap fun command _ =>
      alike_commandFindings (places.command hook.toList command.2) hook command.1
  | _ => exact .cons (alike_errorAt (places.value hook.toList) _) .nil

/-- The rule for an entry of the lifecycle section only points at the places of its hook. -/
theorem alike_lifecycleEntryFindings
    (places : HookPlaces R lines₁ lines₂ header₁ header₂ fallback₁ fallback₂) (entry : Value × Value) :
    Alike R (lifecycleEntryFindings lines₁ header₁ fallback₁ entry)
      (lifecycleEntryFindings lines₂ header₂ fallback₂ entry) := by
  unfold lifecycleEntryFindings
  -- The name of the entry is the same for both, or neither can be printed.
  cases entry.1.shown with
  | error cause => exact .error cause
  | ok hook =>
    simp only [Bind.bind, Except.bind, Pure.pure, Except.pure]
    split
    · exact .ok (alike_hookFindings places hook entry.2)
    · exact .single (alike_warningAt (places.key hook.toList) _)

/-- The check of a section only points at its places. -/
theorem alike_check (part : PlanSection) (document : Entries)
    (places : SectionPlaces R lines₁ lines₂ part.key.toList) :
    Alike R (part.check document lines₁) (part.check document lines₂) := by
  cases part with
  | sequence part => exact alike_check_sequence part document places
  | lifecycle =>
    simp only [PlanSection.check, checkLifecycle]
    -- As for a sequence, the value decides which branch both checks take.
    cases valueUnder document "lifecycle" with
    | null => exact .nil
    | mapping lifecycle =>
      exact alike_gather fun entry _ => alike_lifecycleEntryFindings places.hooks entry
    | _ => exact .single (alike_errorAt places.value _)

end Sections

end PlanLint
