import PlanLint.Source.Range
import Mathlib.Order.Monotone.Basic

/-! What is read from numbered lines follows them when they get other numbers. -/

namespace PlanLint

/-- The same columns on a line with another number. -/
def KeyPosition.renumber (f : Nat → Nat) (position : KeyPosition) : KeyPosition :=
  { position with line := f position.line }

/-- The same lines with other numbers. -/
def LineSpan.renumber (f : Nat → Nat) (span : LineSpan) : LineSpan := ⟨f span.first, f span.last⟩

/-- The same columns on lines with other numbers. -/
def TextRange.renumber (f : Nat → Nat) (range : TextRange) : TextRange :=
  ⟨⟨f range.start.line, range.start.character⟩, ⟨f range.stop.line, range.stop.character⟩⟩

/-- The same line with another number. -/
def renumberLine (f : Nat → Nat) (line : NumberedLine) : NumberedLine := (line.1, f line.2)

/-- If what is found on each line of a block moves with the line, so does what is found first. -/
theorem findSome?_map_of_moves {move : NumberedLine → NumberedLine} {place : KeyPosition → KeyPosition}
    {find found : NumberedLine → Option KeyPosition} (moves : ∀ line, found (move line) = (find line).map place)
    (block : List NumberedLine) : (block.map move).findSome? found = (block.findSome? find).map place := by
  -- Searching the moved lines is searching the lines with the move in front.
  rw [List.findSome?_map, List.map_findSome?]
  exact congrArg (List.findSome? · block) (funext moves)

section Renumbering

variable (f : Nat → Nat)

/-- A key is found at the same columns whatever number its line has. -/
theorem matchKey_renumber (line : Line) (key : List Char) (number : Nat) :
    matchKey line key (f number) = (matchKey line key number).map (·.renumber f) := by
  -- The number is only copied, so both sides fail or succeed together.
  unfold matchKey
  dsimp only
  split
  · split
    · split <;> rfl
    · rfl
  · rfl

/-- A key at a column is found there whatever number its line has. -/
theorem matchKeyAt_renumber (column : Nat) (key : List Char) (line : NumberedLine) :
    matchKeyAt column key (renumberLine f line) = (matchKeyAt column key line).map (·.renumber f) := by
  -- Silence and column are asked of the line alone, and the number only goes into what is found.
  unfold matchKeyAt renumberLine
  dsimp only
  split
  · rfl
  · rw [matchKey_renumber, Option.filter_map]
    rfl

/-- The first line with a key is the same one under other numbers. -/
theorem findSome?_matchKey_renumber (key : List Char) (block : List NumberedLine) :
    (block.map (renumberLine f)).findSome? (fun line => matchKey line.1 key line.2) =
      (block.findSome? fun line => matchKey line.1 key line.2).map (·.renumber f) :=
  findSome?_map_of_moves (fun line => matchKey_renumber f line.1 key line.2) block

/-- The first line with a key at a column is the same one under other numbers. -/
theorem findSome?_matchKeyAt_renumber (column : Nat) (key : List Char) (block : List NumberedLine) :
    (block.map (renumberLine f)).findSome? (matchKeyAt column key) =
      (block.findSome? (matchKeyAt column key)).map (·.renumber f) :=
  findSome?_map_of_moves (matchKeyAt_renumber f column key) block

/-- The same lines start the items of a block under other numbers. -/
theorem itemStarts_renumber (block : List NumberedLine) :
    itemStarts (block.map (renumberLine f)) = (itemStarts block).map (renumberLine f) := by
  -- Which lines start items, and at which column, is read from their text alone.
  have starts : (block.map (renumberLine f)).filter startsItem =
      (block.filter startsItem).map (renumberLine f) := List.filter_map
  unfold itemStarts
  rw [starts]
  cases block.filter startsItem with
  | nil => rfl
  | cons first rest =>
    simp only [List.map_cons, List.filter_map]
    rfl

variable {f}

/-- The last line that says something is the same one under other numbers in the same order. -/
theorem lastSpoken_renumber (increasing : StrictMono f) (block : List NumberedLine) (first : Nat)
    {stop limit : Nat} (bounds : ∀ line ∈ block, f line.2 < limit ↔ line.2 < stop) :
    lastSpoken (block.map (renumberLine f)) (f first) limit = f (lastSpoken block first stop) := by
  -- Comparing the new numbers picks the same lines as comparing the old ones.
  have same : (block.map (renumberLine f)).filter
      (fun line => f first < line.2 && line.2 < limit && !isSilent line.1) =
      (block.filter fun line => first < line.2 && line.2 < stop && !isSilent line.1).map
        (renumberLine f) := by
    rw [List.filter_map]
    congr 1
    apply List.filter_congr
    intro line member
    simp [renumberLine, increasing.lt_iff_lt, bounds line member]
  unfold lastSpoken
  rw [same, List.getLast?_map]
  cases (block.filter fun line => first < line.2 && line.2 < stop && !isSilent line.1).getLast? with
  | none => rfl
  | some line => rfl

/-- Items keep their lines under other numbers in the same order. -/
theorem spansFrom_renumber (increasing : StrictMono f) (block : List NumberedLine) {stop limit : Nat}
    (bounds : ∀ line ∈ block, f line.2 < limit ↔ line.2 < stop) (starts : List Nat) :
    spansFrom (block.map (renumberLine f)) limit (starts.map f) =
      (spansFrom block stop starts).map (·.renumber f) := by
  induction starts with
  | nil => rfl
  | cons start starts ih =>
    cases starts with
    | nil =>
      -- The last item ends with the block.
      simp only [List.map_cons, List.map_nil, spansFrom, lastSpoken_renumber increasing block start bounds]
      rfl
    | cons next rest =>
      have own : lastSpoken (block.map (renumberLine f)) (f start) (f next) =
          f (lastSpoken block start next) :=
        lastSpoken_renumber increasing block start fun _ _ => increasing.lt_iff_lt
      simp only [List.map_cons, spansFrom] at ih ⊢
      rw [ih, own]
      rfl

end Renumbering

end PlanLint
