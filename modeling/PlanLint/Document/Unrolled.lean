import PlanLint.Document.Value

/-! Documents that contain themselves, spelled out a little way. -/

namespace PlanLint

mutual
/-- A value in which a given one stands wherever the whole document is met again. -/
def Value.withWhole (value whole : Value) : Value :=
  match value with
  | .enclosing => whole
  | .list items => .list (itemsWithWhole items whole)
  | .tuple items => .tuple (itemsWithWhole items whole)
  | .set items => .set (itemsWithWhole items whole)
  | .mapping entries => .mapping (entriesWithWhole entries whole)
  | .keyMapping entries => .keyMapping (entriesWithWhole entries whole)
  | value => value
termination_by structural value

/-- The items, each with the whole document filled in. -/
def itemsWithWhole (items : List Value) (whole : Value) : List Value :=
  match items with
  | [] => []
  | item :: items => item.withWhole whole :: itemsWithWhole items whole
termination_by structural items

/-- The entries, each with the whole document filled in. -/
def entriesWithWhole (entries : List (Value × Value)) (whole : Value) : List (Value × Value) :=
  match entries with
  | [] => []
  | entry :: entries =>
    (entry.1.withWhole whole, entry.2.withWhole whole) :: entriesWithWhole entries whole
termination_by structural entries
end

/-- A document in which its inner occurrences are spelled out some levels deep. -/
def unrolled (entries : Entries) : Nat → Entries
  | 0 => entries
  | levels + 1 => entriesWithWhole entries (.mapping (unrolled entries levels))

end PlanLint
