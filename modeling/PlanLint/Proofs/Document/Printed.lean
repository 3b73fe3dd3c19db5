import PlanLint.Document.Printed
import Mathlib.Algebra.Group.Nat.Defs

/-! Every value can be shown that has no integer beyond the limit and does not contain the document
around it. -/

namespace PlanLint

mutual
/-- Whether an integer somewhere in a value has more decimal digits than are ever shown. -/
def Value.hasLongInteger : Value → Bool
  | .int n => decide (10 ^ digitLimit ≤ n.natAbs)
  | .list items => anyHasLongInteger items
  | .tuple items => anyHasLongInteger items
  | .set items => anyHasLongInteger items
  | .mapping entries => anyEntryHasLongInteger entries
  | .keyMapping entries => anyEntryHasLongInteger entries
  | _ => false

/-- Whether some item has such an integer. -/
def anyHasLongInteger : List Value → Bool
  | [] => false
  | item :: items => item.hasLongInteger || anyHasLongInteger items

/-- Whether some entry has such an integer. -/
def anyEntryHasLongInteger : List (Value × Value) → Bool
  | [] => false
  | entry :: entries =>
    entry.1.hasLongInteger || entry.2.hasLongInteger || anyEntryHasLongInteger entries
end

/-- Integers up to the limit can be shown. -/
theorem intText_ok {n : Int} (short : n.natAbs < 10 ^ digitLimit) : intText n = .ok (signedText n) := by
  rw [intText]
  -- The limit is named, since a power as large as that is not to be computed.
  generalize digitLimit = limit at short ⊢
  exact if_pos short

mutual
/-- A value can be shown inside a collection. -/
theorem Value.quotedIn_ok (within : Bool) (value : Value) (tree : value.leadsBack = false)
    (short : value.hasLongInteger = false) : ∃ text, value.quotedIn within = .ok text := by
  -- Only integers and the mark of the enclosing document can fail; the rest is made from its members.
  cases value with
  | int n =>
    simp only [Value.hasLongInteger, decide_eq_false_iff_not, Nat.not_le] at short
    exact ⟨_, by rw [Value.quotedIn]; exact intText_ok short⟩
  | list items =>
    simp only [Value.leadsBack, Value.hasLongInteger] at tree short
    obtain ⟨shown, quoted⟩ := quotedItems_ok within items tree short
    simp [Value.quotedIn, tree, quoted, Bind.bind, Except.bind, Pure.pure, Except.pure]
  | tuple items =>
    simp only [Value.leadsBack, Value.hasLongInteger] at tree short
    obtain ⟨shown, quoted⟩ := quotedItems_ok within items tree short
    simp [Value.quotedIn, quoted, Bind.bind, Except.bind, Pure.pure, Except.pure]
  | set items =>
    simp only [Value.leadsBack, Value.hasLongInteger] at tree short
    obtain ⟨shown, quoted⟩ := quotedItems_ok within items tree short
    simp [Value.quotedIn, quoted, Bind.bind, Except.bind, Pure.pure, Except.pure]
  | mapping entries =>
    simp only [Value.leadsBack, Value.hasLongInteger] at tree short
    obtain ⟨shown, quoted⟩ := quotedEntries_ok within entries tree short
    simp [Value.quotedIn, quoted, Bind.bind, Except.bind, Pure.pure, Except.pure]
  | keyMapping entries =>
    simp only [Value.leadsBack, Value.hasLongInteger] at tree short
    obtain ⟨shown, quoted⟩ := quotedEntries_ok within entries tree short
    cases empty : shown.isEmpty <;>
      simp [Value.quotedIn, quoted, empty, Bind.bind, Except.bind, Pure.pure, Except.pure]
  | enclosing => simp [Value.leadsBack] at tree
  | _ => exact ⟨_, by rw [Value.quotedIn]⟩

/-- The items of a collection can be shown. -/
theorem quotedItems_ok (within : Bool) (items : List Value) (tree : anyLeadsBack items = false)
    (short : anyHasLongInteger items = false) : ∃ shown, quotedItems within items = .ok shown := by
  -- Recursion over the collection: the first is a smaller value, and so are those that follow.
  cases items with
  | nil => exact ⟨[], by rw [quotedItems]⟩
  | cons item items =>
    simp only [anyLeadsBack, anyHasLongInteger, Bool.or_eq_false_iff] at tree short
    obtain ⟨text, first⟩ := item.quotedIn_ok within tree.1 short.1
    obtain ⟨shown, rest⟩ := quotedItems_ok within items tree.2 short.2
    simp [quotedItems, first, rest, Bind.bind, Except.bind, Pure.pure, Except.pure]

/-- The entries of a collection can be shown. -/
theorem quotedEntries_ok (within : Bool) (entries : List (Value × Value))
    (tree : anyEntryLeadsBack entries = false) (short : anyEntryHasLongInteger entries = false) :
    ∃ shown, quotedEntries within entries = .ok shown := by
  -- An entry is shown if its key and its value can be, and then the others are.
  cases entries with
  | nil => exact ⟨[], by rw [quotedEntries]⟩
  | cons entry entries =>
    simp only [anyEntryLeadsBack, anyEntryHasLongInteger, Bool.or_eq_false_iff] at tree short
    obtain ⟨key, first⟩ := entry.1.quotedIn_ok within tree.1.1 short.1.1
    obtain ⟨value, second⟩ := entry.2.quotedIn_ok within tree.1.2 short.1.2
    obtain ⟨shown, rest⟩ := quotedEntries_ok within entries tree.2 short.2
    simp [quotedEntries, first, second, rest, Bind.bind, Except.bind, Pure.pure, Except.pure]
end

/-- A value whose integers are short enough to be shown, and that does not contain the document around
it. -/
structure Value.Printable (value : Value) : Prop where
  tree : value.leadsBack = false
  short : value.hasLongInteger = false

/-- A value can be shown by itself. -/
theorem Value.Printable.shown_ok {value : Value} (printable : value.Printable) :
    ∃ text, value.shown = .ok text := by
  -- Only what is no text, date or tagged word needs to be quoted part by part.
  unfold Value.shown
  split
  · exact ⟨_, rfl⟩
  · exact ⟨_, rfl⟩
  · exact ⟨_, rfl⟩
  · exact ⟨_, rfl⟩
  · exact value.quotedIn_ok false printable.tree printable.short

/-- A value that cannot be shown has an integer beyond the limit or leads back to its document. -/
theorem long_or_back_of_shown {value : Value} {cause : Unprintable} (failed : value.shown = .error cause) :
    value.hasLongInteger = true ∨ value.leadsBack = true := by
  -- What has neither is printable, and would have been shown.
  cases short : value.hasLongInteger with
  | true => exact .inl rfl
  | false =>
    cases tree : value.leadsBack with
    | true => exact .inr rfl
    | false =>
      obtain ⟨shown, shows⟩ := Value.Printable.shown_ok ⟨tree, short⟩
      exact absurd (failed.symm.trans shows) (by simp)

/-! The searches through collections are recursive functions of their own, beside that for values. -/

theorem anyLeadsBack_eq_any (items : List Value) : anyLeadsBack items = items.any Value.leadsBack := by
  -- Both go through the items one by one.
  induction items with
  | nil => rfl
  | cons item items ih => rw [anyLeadsBack, List.any_cons, ih]

theorem anyHasLongInteger_eq_any (items : List Value) :
    anyHasLongInteger items = items.any Value.hasLongInteger := by
  -- Both go through the items one by one.
  induction items with
  | nil => rfl
  | cons item items ih => rw [anyHasLongInteger, List.any_cons, ih]

theorem anyEntryLeadsBack_eq_any (entries : Entries) :
    anyEntryLeadsBack entries = entries.any fun entry => entry.1.leadsBack || entry.2.leadsBack := by
  -- Both go through the entries one by one, and look at key and value of each.
  induction entries with
  | nil => rfl
  | cons entry entries ih => rw [anyEntryLeadsBack, List.any_cons, ih]

theorem anyEntryHasLongInteger_eq_any (entries : Entries) :
    anyEntryHasLongInteger entries = entries.any fun entry => entry.1.hasLongInteger || entry.2.hasLongInteger := by
  -- Both go through the entries one by one, and look at key and value of each.
  induction entries with
  | nil => rfl
  | cons entry entries ih => rw [anyEntryHasLongInteger, List.any_cons, ih]

/-- The items of a printable list are printable. -/
theorem Value.Printable.of_mem_list {items : List Value} (printable : (Value.list items).Printable)
    {item : Value} (member : item ∈ items) : item.Printable := by
  -- A loop or a long integer in an item would be one in the list.
  obtain ⟨tree, short⟩ := printable
  simp only [Value.leadsBack, Value.hasLongInteger, anyLeadsBack_eq_any, anyHasLongInteger_eq_any,
    List.any_eq_false] at tree short
  exact ⟨by simpa using tree item member, by simpa using short item member⟩

/-- The keys and the values of a printable mapping are printable. -/
theorem Value.Printable.of_mem_mapping {entries : Entries} (printable : (Value.mapping entries).Printable)
    {entry : Value × Value} (member : entry ∈ entries) : entry.1.Printable ∧ entry.2.Printable := by
  -- A loop or a long integer in a key or a value would be one in the mapping.
  obtain ⟨tree, short⟩ := printable
  simp only [Value.leadsBack, Value.hasLongInteger, anyEntryLeadsBack_eq_any, anyEntryHasLongInteger_eq_any,
    List.any_eq_false, Bool.not_eq_true, Bool.or_eq_false_iff] at tree short
  have unbroken := tree entry member
  have few := short entry member
  exact ⟨⟨unbroken.1, few.1⟩, unbroken.2, few.2⟩

/-- What stands under a name in a printable mapping is printable, also when nothing does. -/
theorem Value.Printable.valueUnder {entries : Entries} (printable : (Value.mapping entries).Printable)
    (name : String) : (valueUnder entries name).Printable := by
  -- What is found is a value of the mapping, and otherwise it is null.
  unfold PlanLint.valueUnder
  split
  · rename_i entry found
    exact (printable.of_mem_mapping (List.mem_of_find?_eq_some found)).2
  · exact ⟨by simp only [Value.leadsBack], by simp only [Value.hasLongInteger]⟩

end PlanLint
