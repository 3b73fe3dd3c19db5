import PlanLint.Rule.Field
import Mathlib.Data.List.Forall2

/-! Findings that are gathered, and findings of two rules that only differ in their ranges. -/

namespace PlanLint

/-- Gathering gives the findings of each item, one run behind the other. -/
theorem gather_eq_ok_iff {α : Type} {find : α → Findings} {items : List α} {findings : List Diagnostic} :
    gather find items = .ok findings ↔
      ∃ runs, List.Forall₂ (fun item run => find item = .ok run) items runs ∧ findings = runs.flatten := by
  -- One item that breaks off breaks off the whole, so each of them must have its run.
  induction items generalizing findings with
  | nil => simp [gather, eq_comm]
  | cons item items ih =>
    rw [gather]
    constructor
    · intro gathered
      cases first : find item with
      | error cause => simp [first, Bind.bind, Except.bind] at gathered
      | ok run =>
        cases rest : gather find items with
        | error cause => simp [first, rest, Bind.bind, Except.bind] at gathered
        | ok later =>
          simp only [first, rest, Bind.bind, Except.bind, Pure.pure, Except.pure, Except.ok.injEq] at gathered
          obtain ⟨runs, each, rfl⟩ := ih.mp rest
          exact ⟨run :: runs, .cons first each, by simp [← gathered]⟩
    · intro held
      obtain ⟨runs, each, rfl⟩ := held
      cases each with
      | cons first each =>
        simp [first, ih.mpr ⟨_, each, rfl⟩, Bind.bind, Except.bind, Pure.pure, Except.pure]

/-- The runs of numbered items are as many as the items, each of them that of its own item. -/
theorem gather_zipIdx_eq_ok {α : Type} {find : α × Nat → Findings} {items : List α}
    {findings : List Diagnostic} (found : gather find items.zipIdx = .ok findings) :
    ∃ runs : List (List Diagnostic), findings = runs.flatten ∧ runs.length = items.length ∧
      ∀ index item run, items[index]? = some item → runs[index]? = some run →
        find (item, index) = .ok run := by
  -- Gathering gives a run for each numbered item, and the number of an item is its place.
  obtain ⟨runs, each, rfl⟩ := gather_eq_ok_iff.mp found
  obtain ⟨count, each⟩ := List.forall₂_iff_get.mp each
  refine ⟨runs, rfl, by simpa using count.symm, ?_⟩
  intro index item run listed ran
  obtain ⟨inside, rfl⟩ := List.getElem?_eq_some_iff.mp listed
  obtain ⟨within, rfl⟩ := List.getElem?_eq_some_iff.mp ran
  simpa using each index (by simpa using inside) within

/-- Two findings that tell the same about ranges in a given relation. -/
structure Diagnostic.Alike (R : TextRange → TextRange → Prop) (d e : Diagnostic) : Prop where
  range : R d.range e.range
  message : d.message = e.message
  severity : d.severity = e.severity
  source : d.source = e.source

/-- Two lists of findings that are alike, one by one. -/
abbrev AllAlike (R : TextRange → TextRange → Prop) (shown other : List Diagnostic) : Prop :=
  List.Forall₂ (Diagnostic.Alike R) shown other

/-- Two outcomes that are alike, finding by finding, or that break off for the same cause. -/
inductive Alike (R : TextRange → TextRange → Prop) : Findings → Findings → Prop where
  | ok {shown other : List Diagnostic} (each : AllAlike R shown other) :
    Alike R (.ok shown) (.ok other)
  | error (cause : Unprintable) : Alike R (.error cause) (.error cause)

section Alike

variable {R : TextRange → TextRange → Prop}

/-- Errors with one message are alike if their ranges are. -/
theorem alike_errorAt {range other : TextRange} (ranges : R range other) (message : String) :
    (errorAt range message).Alike R (errorAt other message) :=
  ⟨ranges, rfl, rfl, rfl⟩

/-- Warnings with one message are alike if their ranges are. -/
theorem alike_warningAt {range other : TextRange} (ranges : R range other) (message : String) :
    (warningAt range message).Alike R (warningAt other message) :=
  ⟨ranges, rfl, rfl, rfl⟩

/-- One finding for each item gives alike lists if it is alike for each item. -/
theorem allAlike_map {α : Type} {find other : α → Diagnostic} {items : List α}
    (each : ∀ item ∈ items, (find item).Alike R (other item)) :
    AllAlike R (items.map find) (items.map other) := by
  -- The two lists come from the same items, so they are compared item by item.
  rw [AllAlike, List.forall₂_map_left_iff, List.forall₂_map_right_iff, List.forall₂_same]
  exact each

/-- The same with a list of findings for each item. -/
theorem allAlike_flatMap {α : Type} {find other : α → List Diagnostic} {items : List α}
    (each : ∀ item ∈ items, AllAlike R (find item) (other item)) :
    AllAlike R (items.flatMap find) (items.flatMap other) := by
  -- Induction on the items: as many findings for the first, and then those of the others.
  induction items with
  | nil => exact .nil
  | cons item items ih =>
    rw [List.flatMap_cons, List.flatMap_cons]
    exact List.rel_append (each item (by simp)) (ih fun next member => each next (by simp [member]))

/-- No findings are alike. -/
theorem Alike.nil : Alike R (.ok []) (.ok []) := .ok .nil

/-- Two single findings are alike as outcomes if they are as findings. -/
theorem Alike.single {finding other : Diagnostic} (same : finding.Alike R other) :
    Alike R (.ok [finding]) (.ok [other]) :=
  .ok (.cons same .nil)

/-- What is made from alike findings is alike if every way to make it keeps them so. -/
theorem Alike.bind {findings others : Findings} {next after : List Diagnostic → Findings}
    (first : Alike R findings others)
    (then_ : ∀ shown other, AllAlike R shown other → Alike R (next shown) (after other)) :
    Alike R (findings >>= next) (others >>= after) := by
  -- A first step that breaks off does so in both.
  cases first with
  | ok each => exact then_ _ _ each
  | error cause => exact .error cause

/-- Gathering alike findings item by item gives alike findings. -/
theorem alike_gather {α : Type} {find other : α → Findings} {items : List α}
    (each : ∀ item ∈ items, Alike R (find item) (other item)) :
    Alike R (gather find items) (gather other items) := by
  -- Induction on the items. Where the first breaks off on one side it does so on the other.
  induction items with
  | nil => exact .nil
  | cons item items ih =>
    refine (each item (by simp)).bind fun shown others first => ?_
    refine (ih fun next member => each next (by simp [member])).bind fun later rest second => ?_
    exact .ok (List.rel_append first second)

/-- Warnings that show one value are alike if their ranges are. -/
theorem alike_warningShowing {range other : TextRange} (ranges : R range other) (before : String)
    (value : Value) (after : String) :
    Alike R (warningShowing range before value after) (warningShowing other before value after) := by
  -- Both show the same value, or fail to.
  unfold warningShowing
  cases value.shown with
  | error cause => exact .error cause
  | ok shown => exact .single (alike_warningAt ranges _)

/-- Two lists that are alike to a third are alike as far as the relations of their ranges tell. -/
theorem AllAlike.compose {S T : TextRange → TextRange → Prop} {shown other base : List Diagnostic}
    (first : AllAlike R shown base) (second : AllAlike S other base)
    (join : ∀ range other base, R range base → S other base → T range other) : AllAlike T shown other := by
  -- The three lists are as long as each other, and the findings at one place tell the same.
  induction first generalizing other with
  | nil =>
    cases second
    exact .nil
  | cons same _ ih =>
    cases second with
    | cons also rest =>
      refine .cons ⟨join _ _ _ same.range also.range, ?_, ?_, ?_⟩ (ih rest)
      · exact same.message.trans also.message.symm
      · exact same.severity.trans also.severity.symm
      · exact same.source.trans also.source.symm

/-- So are two outcomes that are alike to a third. -/
theorem Alike.compose {S T : TextRange → TextRange → Prop} {findings others base : Findings}
    (first : Alike R findings base) (second : Alike S others base)
    (join : ∀ range other base, R range base → S other base → T range other) :
    Alike T findings others := by
  cases first with
  | error cause =>
    cases second
    exact .error cause
  | ok each =>
    cases second with
    -- Both are lists that go with the third one finding by finding.
    | ok rest => exact .ok (each.compose rest join)

/-- Findings that are alike to themselves under a condition on ranges all meet it. -/
theorem Alike.range_of_mem {P : TextRange → Prop} {findings : List Diagnostic}
    (alike : Alike (fun range _ => P range) (.ok findings) (.ok findings)) {finding : Diagnostic}
    (member : finding ∈ findings) : P finding.range := by
  -- Each finding is compared with itself.
  cases alike with
  | ok each => exact (List.forall₂_same.mp each finding member).range

end Alike

end PlanLint
