import PlanLint.Source.Block
import Mathlib.Data.List.DropRight

/-! How far the block of a header reaches, and which lines cannot change that. -/

namespace PlanLint

/-- A block body is a run of lines with its silent tail cut off. -/
theorem blockBody_eq_rdropWhile (column : Nat) (below : List Line) :
    blockBody column below =
      (below.takeWhile fun line => isSilent line || continuesBlock column line).rdropWhile isSilent :=
  rfl

@[simp] theorem blockBody_nil (column : Nat) : blockBody column [] = [] := rfl

/-- Cutting a silent tail off a longer list keeps its first line unless nothing else is left. -/
theorem rdropWhile_isSilent_cons (line : Line) (rest : List Line) :
    (line :: rest).rdropWhile isSilent =
      if isSilent line ∧ rest.rdropWhile isSilent = [] then [] else line :: rest.rdropWhile isSilent := by
  -- From the right, the first line is met last, after all of the others were cut off.
  induction rest using List.reverseRecOn with
  | nil => by_cases silent : isSilent line <;> simp [List.rdropWhile_singleton, silent]
  | append_singleton rest last ih =>
    rw [← List.cons_append]
    by_cases silent : isSilent last
    · rw [List.rdropWhile_concat_pos _ _ _ silent, List.rdropWhile_concat_pos _ _ _ silent, ih]
    · rw [List.rdropWhile_concat_neg _ _ _ silent, List.rdropWhile_concat_neg _ _ _ silent]
      simp

/-- A line that goes on with the block belongs to it. -/
theorem blockBody_cons_continues {column : Nat} {line : Line} (spoken : isSilent line = false)
    (continues : continuesBlock column line = true) (rest : List Line) :
    blockBody column (line :: rest) = line :: blockBody column rest := by
  -- The body is cut off behind its last line that says something, which is this one or a later one.
  simp [blockBody_eq_rdropWhile, rdropWhile_isSilent_cons, spoken, continues]

/-- A silent line belongs to the block exactly if some line below it does. -/
theorem blockBody_cons_silent {column : Nat} {line : Line} (silent : isSilent line = true)
    (rest : List Line) :
    blockBody column (line :: rest) =
      if blockBody column rest = [] then [] else line :: blockBody column rest := by
  -- The silent lines at the end of a body are cut off.
  simp [blockBody_eq_rdropWhile, rdropWhile_isSilent_cons, silent]

/-- Any other line ends the block. -/
theorem blockBody_cons_closes {column : Nat} {line : Line} (spoken : isSilent line = false)
    (closes : continuesBlock column line = false) (rest : List Line) :
    blockBody column (line :: rest) = [] := by
  -- The lines of a body are taken as long as they go on.
  simp [blockBody_eq_rdropWhile, spoken, closes]

/-- The body of a block is the beginning of the lines below its header. -/
theorem blockBody_prefix (column : Nat) (below : List Line) : blockBody column below <+: below :=
  (List.rdropWhile_prefix _ _).trans (List.takeWhile_prefix _)

/-- A place below a header holds its body open if its line says something and every line up to it
that says something goes on with the block. -/
def HoldsBodyOpen (column : Nat) (below : List Line) (place : Nat) : Prop :=
  (∃ line, below[place]? = some line ∧ isSilent line = false) ∧
    ∀ i ≤ place, ∀ line, below[i]? = some line → isSilent line = false → continuesBlock column line = true

theorem not_holdsBodyOpen_nil (column place : Nat) : ¬ HoldsBodyOpen column [] place := by
  -- There is no line that could hold it open.
  intro held
  obtain ⟨⟨line, found, -⟩, -⟩ := held
  simp at found

theorem holdsBodyOpen_cons_zero {column : Nat} {line : Line} {rest : List Line} :
    HoldsBodyOpen column (line :: rest) 0 ↔ isSilent line = false ∧ continuesBlock column line = true := by
  -- Only the first line is looked at, and it plays both parts.
  constructor
  · intro held
    obtain ⟨⟨first, found, spoken⟩, each⟩ := held
    simp only [List.getElem?_cons_zero, Option.some.injEq] at found
    subst found
    exact ⟨spoken, each 0 (Nat.le_refl 0) line rfl spoken⟩
  · intro held
    obtain ⟨spoken, continues⟩ := held
    refine ⟨⟨line, rfl, spoken⟩, ?_⟩
    intro i small first found _
    obtain rfl : i = 0 := by omega
    simp only [List.getElem?_cons_zero, Option.some.injEq] at found
    rwa [← found]

theorem holdsBodyOpen_cons_succ {column place : Nat} {line : Line} {rest : List Line} :
    HoldsBodyOpen column (line :: rest) (place + 1) ↔
      (isSilent line = false → continuesBlock column line = true) ∧ HoldsBodyOpen column rest place := by
  -- The first line is an ordinary one here, so it only has to go on with the block if it says something.
  constructor
  · intro held
    obtain ⟨⟨last, found, spoken⟩, each⟩ := held
    refine ⟨fun loud => each 0 (Nat.zero_le _) line rfl loud, ⟨last, found, spoken⟩, ?_⟩
    intro i small text at_ loud
    exact each (i + 1) (by omega) text at_ loud
  · intro held
    obtain ⟨first, ⟨last, found, spoken⟩, each⟩ := held
    refine ⟨⟨last, found, spoken⟩, ?_⟩
    intro i small text at_ loud
    cases i with
    | zero =>
      simp only [List.getElem?_cons_zero, Option.some.injEq] at at_
      subst at_
      exact first loud
    | succ i => exact each i (by omega) text at_ loud

/-- What holds a body open from the first line on is that line or one further down. -/
theorem exists_holdsBodyOpen_cons {column place : Nat} {line : Line} {rest : List Line} :
    (∃ far, place ≤ far ∧ HoldsBodyOpen column (line :: rest) far) ↔
      (place = 0 ∧ isSilent line = false ∧ continuesBlock column line = true) ∨
        (isSilent line = false → continuesBlock column line = true) ∧
          ∃ far, place ≤ far + 1 ∧ HoldsBodyOpen column rest far := by
  -- The line that holds the body open is the first one or one of the others.
  constructor
  · intro held
    obtain ⟨far, reach, holds⟩ := held
    cases far with
    | zero => exact .inl ⟨by omega, holdsBodyOpen_cons_zero.mp holds⟩
    | succ far =>
      obtain ⟨first, holds⟩ := holdsBodyOpen_cons_succ.mp holds
      exact .inr ⟨first, far, reach, holds⟩
  · rintro (⟨rfl, first⟩ | ⟨first, far, reach, holds⟩)
    · exact ⟨0, Nat.le_refl 0, holdsBodyOpen_cons_zero.mpr first⟩
    · exact ⟨far + 1, reach, holdsBodyOpen_cons_succ.mpr ⟨first, holds⟩⟩

/-- The body of a block reaches exactly as far as some line holds the block open. -/
theorem lt_length_blockBody_iff {column place : Nat} {below : List Line} :
    place < (blockBody column below).length ↔ ∃ far, place ≤ far ∧ HoldsBodyOpen column below far := by
  induction below generalizing place with
  | nil => simp [not_holdsBodyOpen_nil]
  | cons line rest ih =>
    rw [exists_holdsBodyOpen_cons]
    cases silent : isSilent line with
    | false =>
      cases continues : continuesBlock column line with
      | false => simp [blockBody_cons_closes silent continues]
      | true =>
        rw [blockBody_cons_continues silent continues]
        cases place with
        | zero => simp
        | succ place => simp [ih]
    | true =>
      rw [blockBody_cons_silent silent]
      -- The silent line counts only if the body below it is not empty.
      have below : (∃ far, HoldsBodyOpen column rest far) ↔ blockBody column rest ≠ [] := by
        rw [← List.length_pos_iff, ih]
        simp
      cases place with
      | zero =>
        split
        · simp_all
        · simp_all
      | succ place =>
        split
        · rename_i empty
          have none : ¬ ∃ far, place ≤ far ∧ HoldsBodyOpen column rest far := by
            rw [← ih, empty]
            simp
          simpa using none
        · simp [ih]

/-- A line of a text holds the block of a header open if it stands below the header, says something,
and every line from the header to it that says something goes on with the block. -/
def HoldsOpen (lines : List Line) (header : KeyPosition) (number : Nat) : Prop :=
  header.line < number ∧ (∃ line, lines[number]? = some line ∧ isSilent line = false) ∧
    ∀ i line, header.line < i → i ≤ number → lines[i]? = some line → isSilent line = false →
      continuesBlock header.keyStart line = true

/-- Counting from the line below the header or from the start of the text makes no difference. -/
theorem holdsBodyOpen_iff {lines : List Line} {header : KeyPosition} {place : Nat} :
    HoldsBodyOpen header.keyStart (lines.drop (header.line + 1)) place ↔
      HoldsOpen lines header (header.line + 1 + place) := by
  -- The place in the body and the number in the text differ by the lines up to the header.
  simp only [HoldsBodyOpen, HoldsOpen, List.getElem?_drop]
  constructor
  · intro held
    obtain ⟨last, each⟩ := held
    refine ⟨by omega, last, ?_⟩
    intro i line above small found loud
    refine each (i - (header.line + 1)) (by omega) line ?_ loud
    rwa [Nat.add_sub_cancel' above]
  · intro held
    obtain ⟨-, last, each⟩ := held
    exact ⟨last, fun i small line found loud => each _ line (by omega) (by omega) found loud⟩

/-- A block reaches exactly as far as some line holds it open. -/
theorem lt_blockEnd_iff {lines : List Line} {header : KeyPosition} {number : Nat}
    (below : header.line < number) :
    number < blockEnd lines header ↔ ∃ far, number ≤ far ∧ HoldsOpen lines header far := by
  -- The lines of the block are numbered from the one below the header on.
  have place : number < blockEnd lines header ↔ number - (header.line + 1) <
      (blockBody header.keyStart (lines.drop (header.line + 1))).length := by
    unfold blockEnd
    omega
  rw [place, lt_length_blockBody_iff]
  constructor
  · intro held
    obtain ⟨far, reach, holds⟩ := held
    exact ⟨_, by omega, holdsBodyOpen_iff.mp holds⟩
  · intro held
    obtain ⟨far, reach, holds⟩ := held
    refine ⟨far - (header.line + 1), by omega, holdsBodyOpen_iff.mpr ?_⟩
    rwa [Nat.add_sub_cancel' (by omega : header.line + 1 ≤ far)]

/-- The block ends below its header. -/
theorem line_lt_blockEnd (lines : List Line) (header : KeyPosition) :
    header.line < blockEnd lines header := by
  -- The block ends no earlier than with the line of the header.
  unfold blockEnd
  omega

/-- A block ends no later than the text. -/
theorem blockEnd_le_length {lines : List Line} {header : KeyPosition} (inside : header.line < lines.length) :
    blockEnd lines header ≤ lines.length := by
  -- The body is a first part of the lines below the header.
  have body := blockBody_prefix header.keyStart (lines.drop (header.line + 1))
  have shorter := body.length_le
  rw [List.length_drop] at shorter
  unfold blockEnd
  omega

/-- A line that holds a block open belongs to it. -/
theorem HoldsOpen.lt_blockEnd {lines : List Line} {header : KeyPosition} {number : Nat}
    (holds : HoldsOpen lines header number) : number < blockEnd lines header :=
  (lt_blockEnd_iff holds.1).mpr ⟨number, Nat.le_refl _, holds⟩

/-- Every line of a block that says something goes on with the block. -/
theorem continuesBlock_of_lt_blockEnd {lines : List Line} {header : KeyPosition} {number : Nat}
    (below : header.line < number) (inside : number < blockEnd lines header) {line : Line}
    (found : lines[number]? = some line) (spoken : isSilent line = false) :
    continuesBlock header.keyStart line = true := by
  -- The line lies above one that holds the block open.
  obtain ⟨far, reach, -, -, each⟩ := (lt_blockEnd_iff below).mp inside
  exact each number line below reach found spoken

/-- The lines of a block are those between its header and its end. -/
theorem mem_blockLines {lines : List Line} {header : KeyPosition} {line : Line} {number : Nat} :
    (line, number) ∈ blockLines lines header ↔
      header.line < number ∧ number < blockEnd lines header ∧ lines[number]? = some line := by
  -- The body begins like the lines below the header, so the two agree as far as it goes.
  have body := blockBody_prefix header.keyStart (lines.drop (header.line + 1))
  have same : ∀ place, place < (blockBody header.keyStart (lines.drop (header.line + 1))).length →
      (blockBody header.keyStart (lines.drop (header.line + 1)))[place]? =
        lines[header.line + 1 + place]? := by
    intro place inside
    rw [← List.getElem?_drop, List.prefix_iff_getElem?.mp body place inside,
      List.getElem?_eq_getElem inside]
  rw [blockLines, List.mem_zipIdx_iff_le_and_getElem?_sub]
  unfold blockEnd
  constructor
  · intro held
    obtain ⟨below, found⟩ := held
    have inside := (List.getElem?_eq_some_iff.mp found).1
    refine ⟨below, by omega, ?_⟩
    rw [same _ inside, Nat.add_sub_cancel' below] at found
    exact found
  · intro held
    obtain ⟨below, inside, found⟩ := held
    refine ⟨below, ?_⟩
    rw [same _ (by omega), Nat.add_sub_cancel' below]
    exact found

/-- What goes on with a deeper block goes on with the block around it. -/
theorem continuesBlock_mono {outer inner : Nat} (deeper : outer ≤ inner) {line : Line}
    (continues : continuesBlock inner line = true) : continuesBlock outer line = true := by
  -- A line is deep enough, or an item at the column of the block.
  simp only [continuesBlock, Bool.or_eq_true, Bool.and_eq_true, decide_eq_true_eq, beq_iff_eq] at *
  rcases continues with deep | ⟨level, item⟩
  · exact .inl (by omega)
  · rcases Nat.lt_or_eq_of_le deeper with less | same
    · exact .inl (by omega)
    · exact .inr ⟨by omega, item⟩

/-- A block that is opened by a line of another block, no less deep than that one, ends with it at
the latest. -/
theorem blockEnd_le_of_nested {lines : List Line} {outer inner : KeyPosition}
    (deeper : outer.keyStart ≤ inner.keyStart) (below : outer.line ≤ inner.line)
    (inside : inner.line < blockEnd lines outer) : blockEnd lines inner ≤ blockEnd lines outer := by
  by_contra longer
  -- Otherwise a line behind the outer block holds the inner one open, and the outer one as well.
  have further : blockEnd lines outer < blockEnd lines inner := by omega
  obtain ⟨far, reach, above, last, each⟩ := (lt_blockEnd_iff inside).mp further
  have holds : HoldsOpen lines outer far := by
    refine ⟨by omega, last, ?_⟩
    intro i line low small found spoken
    rcases Nat.lt_or_ge inner.line i with beneath | before
    · exact continuesBlock_mono deeper (each i line beneath small found spoken)
    · exact continuesBlock_of_lt_blockEnd low (by omega) found spoken
  have := holds.lt_blockEnd
  omega

/-- Lines close a block if they say nothing, or if the first of them that says something does not go
on with the block. -/
def ClosesBlock (column : Nat) (after : List Line) : Prop :=
  ∀ line, after.find? (fun line => !isSilent line) = some line → continuesBlock column line = false

instance (column : Nat) (after : List Line) : Decidable (ClosesBlock column after) :=
  decidable_of_iff
    (((after.find? fun line => !isSilent line).all fun line => !continuesBlock column line) = true)
    (by simp [ClosesBlock, Option.all_eq_true])

/-- What closes a block closes the deeper ones inside it. -/
theorem ClosesBlock.mono {outer inner : Nat} (deeper : outer ≤ inner) {after : List Line}
    (closes : ClosesBlock outer after) : ClosesBlock inner after := by
  -- A line that went on with the deeper block would go on with the outer one.
  intro line found
  have outside := closes line found
  cases continues : continuesBlock inner line with
  | false => rfl
  | true => rw [continuesBlock_mono deeper continues] at outside; exact outside

/-- Lines that close a block have no part in it. -/
theorem blockBody_of_closes {column : Nat} {after : List Line} (closes : ClosesBlock column after) :
    blockBody column after = [] := by
  -- Induction on the lines: the first that says something ends the body, and silent ones before it do not count.
  induction after with
  | nil => rfl
  | cons line rest ih =>
    cases silent : isSilent line with
    | true =>
      have later : ClosesBlock column rest := fun text found => closes text (by simpa [silent] using found)
      rw [blockBody_cons_silent silent, if_pos (ih later)]
    | false => exact blockBody_cons_closes silent (closes line (by simp [silent])) rest

/-- The body of a block does not depend on lines that close it. -/
theorem blockBody_append {column : Nat} {after : List Line} (closes : ClosesBlock column after)
    (inside : List Line) : blockBody column (inside ++ after) = blockBody column inside := by
  -- Each line of the inside has the same effect on both sides, and what is left at the end is nothing.
  induction inside with
  | nil => rw [List.nil_append, blockBody_of_closes closes, blockBody_nil]
  | cons line rest ih =>
    rw [List.cons_append]
    cases silent : isSilent line with
    | true => rw [blockBody_cons_silent silent, blockBody_cons_silent silent, ih]
    | false =>
      cases continues : continuesBlock column line with
      | true => rw [blockBody_cons_continues silent continues, blockBody_cons_continues silent continues, ih]
      | false => rw [blockBody_cons_closes silent continues, blockBody_cons_closes silent continues]

end PlanLint
