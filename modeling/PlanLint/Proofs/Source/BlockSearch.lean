import PlanLint.Proofs.Source.Content

/-! The block of a header is its longest continuation, and a key is found on the first line of it that gives the
key. -/

namespace PlanLint

/-- A line belongs to the block of a header if it, or one below it, says something, and all that is said below the
header as far as there goes on with the block. -/
def InBlock (lines : List Line) (header : KeyPosition) (number : Nat) : Prop :=
  header.line < number ∧ ∃ last, number ≤ last ∧ (∃ line, lines[last]? = some line ∧ Speaks line) ∧
    ∀ i line, header.line < i → i ≤ last → lines[i]? = some line → Speaks line → GoesOn header.keyStart line

/-- A line gives a key if the key stands on it, behind indentation and markers, in front of a colon that a blank
follows or that ends the line. -/
def GivesKey (lines : List Line) (key : List Char) (number : Nat) : Prop :=
  ∃ line column after, lines[number]? = some line ∧ GivesAt column (key ++ ':' :: after) line ∧
    after.head?.all isBlank = true

/-- A position is that of a key on a line that gives it, with the value that stands behind the colon. -/
def IsMatch (lines : List Line) (key : List Char) (position : KeyPosition) : Prop :=
  ∃ line after, lines[position.line]? = some line ∧ GivesAt position.keyStart (key ++ ':' :: after) line ∧
    after.head?.all isBlank = true ∧ position.keyEnd = position.keyStart + key.length ∧
    (position.valueStart, position.valueEnd) = valueColumns (position.keyEnd + 1) after

/-- What the search for a key below a header looks at and what it gives. -/
structure SearchesBlock (lines : List Line) (header : KeyPosition) (key : List Char) : Prop where
  /-- The lines that are looked at are those of the block, in their order. -/
  scanned : ∀ line number, (line, number) ∈ blockLines lines header ↔
    InBlock lines header number ∧ lines[number]? = some line
  ordered : InOrder (blockLines lines header)
  /-- They are the lines between the header and the end of its block. -/
  extent : ∀ number, InBlock lines header number ↔ header.line < number ∧ number < blockEnd lines header
  /-- A position is found exactly if it is that of the key on the first of these lines that give it. -/
  found : ∀ position, locateKeyBelow lines key header = some position ↔
    IsMatch lines key position ∧ InBlock lines header position.line ∧
      ∀ earlier, InBlock lines header earlier → GivesKey lines key earlier → position.line ≤ earlier
  /-- Nothing is found exactly if none of them gives it. -/
  absent : locateKeyBelow lines key header = none ↔
    ∀ number, InBlock lines header number → ¬ GivesKey lines key number

section Match

variable {lines : List Line} {key : List Char}

/-- The match of a key on a line of a text is where the line gives it. -/
theorem isKeyAt_iff_isMatch {position : KeyPosition} : IsKeyAt lines key position ↔ IsMatch lines key position := by
  -- Both sides say the same of each column once the position is taken apart.
  obtain ⟨number, start, stop, valueStart, valueStop⟩ := position
  simp only [IsKeyAt, IsMatch, matchKey_eq_some_iff, givesAt_iff, KeyPosition.mk.injEq, true_and]
  constructor
  · rintro ⟨line, at_, after, text, ends, rfl, rfl, rfl, rfl⟩
    exact ⟨line, after, at_, ⟨rfl, text⟩, ends, rfl, rfl⟩
  · rintro ⟨line, after, at_, ⟨rfl, text⟩, ends, rfl, value⟩
    obtain ⟨rfl, rfl⟩ := Prod.mk.injEq _ _ _ _ ▸ value
    exact ⟨line, at_, after, text, ends, rfl, rfl, rfl, rfl⟩

/-- A line gives a key exactly if the key has a match there. -/
theorem givesKey_iff {number : Nat} :
    GivesKey lines key number ↔ ∃ position, IsKeyAt lines key position ∧ position.line = number := by
  simp only [isKeyAt_iff_isMatch]
  constructor
  · rintro ⟨line, column, after, at_, gives, ends⟩
    -- The columns of the match follow from where the key starts.
    let value := valueColumns (column + key.length + 1) after
    exact ⟨⟨number, column, column + key.length, value.1, value.2⟩, ⟨line, after, at_, gives, ends, rfl, rfl⟩, rfl⟩
  · rintro ⟨position, ⟨line, after, at_, gives, ends, -⟩, rfl⟩
    exact ⟨line, position.keyStart, after, at_, gives, ends⟩

end Match

section Block

variable {lines : List Line} {header : KeyPosition} {key : List Char}

/-- A line is in the block of a header exactly if it is between the header and the end of the block. -/
theorem inBlock_iff {number : Nat} :
    InBlock lines header number ↔ header.line < number ∧ number < blockEnd lines header := by
  -- Some line at or below this one has to hold the block open, and that is what the end of the block is about.
  have held : ∀ last, header.line < number → number ≤ last → (HoldsOpen lines header last ↔
      (∃ line, lines[last]? = some line ∧ Speaks line) ∧
        ∀ i line, header.line < i → i ≤ last → lines[i]? = some line → Speaks line →
          GoesOn header.keyStart line) := by
    intro last below reach
    have beneath : header.line < last := by omega
    simp +contextual only [HoldsOpen, speaks_iff, goesOn_iff, beneath, true_and]
  rw [InBlock]
  constructor
  · rintro ⟨below, last, reach, open_⟩
    exact ⟨below, (lt_blockEnd_iff below).mpr ⟨last, reach, (held last below reach).mpr open_⟩⟩
  · rintro ⟨below, inside⟩
    obtain ⟨last, reach, holds⟩ := (lt_blockEnd_iff below).mp inside
    exact ⟨below, last, reach, (held last below reach).mp holds⟩

/-- So the lines of the block are those that are looked at. -/
theorem mem_blockLines_iff {line : Line} {number : Nat} :
    (line, number) ∈ blockLines lines header ↔ InBlock lines header number ∧ lines[number]? = some line := by
  -- Both say that the number lies in the block and that the line has it.
  rw [mem_blockLines, inBlock_iff, and_assoc]

/-- The place of a key below a header is that on the first line of the block that gives it. -/
theorem locateKeyBelow_eq_some_iff {position : KeyPosition} :
    locateKeyBelow lines key header = some position ↔
      IsMatch lines key position ∧ InBlock lines header position.line ∧
        ∀ earlier, InBlock lines header earlier → GivesKey lines key earlier → position.line ≤ earlier := by
  rw [locateKeyBelow,
    (inOrder_blockLines lines header).findSome?_matchKey_eq_some_iff fun _ _ => mem_blockLines_iff,
    isKeyAt_iff_isMatch]
  -- A line gives the key where the key has a match, so the first match is on the first such line.
  simp only [givesKey_iff]
  constructor
  · rintro ⟨here, inside, first⟩
    refine ⟨here, inside, ?_⟩
    rintro _ also ⟨earlier, there, rfl⟩
    exact first earlier there also
  · rintro ⟨here, inside, first⟩
    exact ⟨here, inside, fun earlier there also => first earlier.line also ⟨earlier, there, rfl⟩⟩

/-- There is none exactly if no line of the block gives it. -/
theorem locateKeyBelow_eq_none_iff :
    locateKeyBelow lines key header = none ↔
      ∀ number, InBlock lines header number → ¬ GivesKey lines key number := by
  rw [locateKeyBelow, findSome?_matchKey_eq_none_iff fun _ _ => mem_blockLines_iff]
  -- A line gives a key exactly if a position of the key is on it.
  simp only [givesKey_iff]
  constructor
  · rintro nowhere _ inside ⟨position, here, rfl⟩
    exact nowhere position here inside
  · intro nowhere position here inside
    exact nowhere position.line inside ⟨position, here, rfl⟩

end Block

/-- Whatever the lines, the header and the key, the search below the header looks at the lines of the longest
continuation of its block, and finds the key on the first of them that gives it. -/
theorem block_searched (lines : List Line) (header : KeyPosition) (key : List Char) :
    SearchesBlock lines header key where
  scanned _ _ := mem_blockLines_iff
  ordered := inOrder_blockLines lines header
  extent _ := inBlock_iff
  found _ := locateKeyBelow_eq_some_iff
  absent := locateKeyBelow_eq_none_iff

/-- A compact list with a comment above it, and a blank line and a comment below. -/
def compactList : List Line := ["tags:", " # name: x", "- - name: a", "", "  # end", "other: 1"].map (·.toList)

/-- The comment above the list belongs to the block, and what stands below the list does not. -/
example : (blockLines compactList ⟨0, 0, 4, 5, 5⟩).map (·.2) = [1, 2] ∧
    locateKeyBelow compactList "name".toList ⟨0, 0, 4, 5, 5⟩ = some ⟨2, 4, 8, 10, 11⟩ := by decide +kernel

end PlanLint
