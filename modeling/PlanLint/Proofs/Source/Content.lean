import PlanLint.Proofs.Source.Margin

/-! What a line says behind its indentation, and behind its item markers as well, told without scanning it. -/

namespace PlanLint

/-- A line says a text at a column: blanks up to there, and then the text, which starts with no blank and is no
comment. -/
structure SaysAt (column : Nat) (text : List Char) (line : Line) : Prop where
  margin : ∃ blanks, line = blanks ++ text ∧ blanks.length = column ∧ ∀ c ∈ blanks, isBlank c = true
  first : text.head?.any (fun c => !isBlank c && c != '#') = true

/-- A line that says anything at all is neither blank nor only a comment. -/
def Speaks (line : Line) : Prop := ∃ column text, SaysAt column text line

/-- A text starts an item: a dash and a space, or a lone dash. -/
def StartsWithDash (text : List Char) : Prop := ['-', ' '] <+: text ∨ text = ['-']

/-- A line goes on with the block of a header in a column: what it says stands deeper, or starts an item there. -/
def GoesOn (column : Nat) (line : Line) : Prop :=
  ∃ place text, SaysAt place text line ∧ (column < place ∨ place = column ∧ StartsWithDash text)

/-- Item markers: dashes, each with a space and any further blanks behind it. -/
inductive AreItemMarkers : List Char → Prop where
  | none : AreItemMarkers []
  | marker {blanks later : List Char} (blank : ∀ c ∈ blanks, isBlank c = true) (rest : AreItemMarkers later) :
      AreItemMarkers ('-' :: ' ' :: (blanks ++ later))

/-- A line gives a text at a column, behind its indentation and all of its item markers. -/
structure GivesAt (column : Nat) (text : List Char) (line : Line) : Prop where
  front : ∃ blanks markers, line = blanks ++ (markers ++ text) ∧ blanks.length + markers.length = column ∧
    (∀ c ∈ blanks, isBlank c = true) ∧ AreItemMarkers markers
  solid : ∀ c ∈ text.head?, isBlank c = false
  unmarked : ¬ ['-', ' '] <+: text

section Indentation

variable {blanks text : List Char} {line : Line}

/-- What is left of a text without the blanks at its start does not start with one. -/
theorem isBlank_head?_trimStart (text : List Char) : ∀ c ∈ (trimStart text).head?, isBlank c = false := by
  -- The first character that is left is the one that stopped the run of blanks.
  intro c first
  have stop := List.head?_dropWhile_not isBlank text
  rw [Option.mem_def, trimStart] at first
  rw [first] at stop
  exact stop

/-- A text that starts with no blank is left as it is. -/
theorem trimStart_of_solid (solid : ∀ c ∈ text.head?, isBlank c = false) : trimStart text = text := by
  -- Trimming stops at the first character.
  cases text with
  | nil => rfl
  | cons c rest =>
    have loud : isBlank c = false := solid c rfl
    rw [trimStart, List.dropWhile_cons_of_neg (by simp [loud])]

/-- So blanks in front of it are the indentation of the line, and it is what stands behind. -/
theorem indent_of_solid (blank : ∀ c ∈ blanks, isBlank c = true) (solid : ∀ c ∈ text.head?, isBlank c = false) :
    indent (blanks ++ text) = blanks.length ∧ trimStart (blanks ++ text) = text := by
  have left : trimStart (blanks ++ text) = text := by rw [trimStart_margin blank, trimStart_of_solid solid]
  -- The indentation is as wide as what was trimmed away.
  have whole := indent_add_trimStart (blanks ++ text)
  rw [left, List.length_append] at whole
  exact ⟨by omega, left⟩

/-- A line is silent unless something other than a comment stands behind its indentation. -/
theorem isSilent_eq_false_iff :
    isSilent line = false ↔ (trimStart line).head?.any (fun c => !isBlank c && c != '#') = true := by
  -- The first character there is never a blank, so only the number sign is left to exclude.
  have solid := isBlank_head?_trimStart line
  unfold isSilent
  cases text : trimStart line with
  | nil => simp
  | cons c rest =>
    rw [text] at solid
    simp [solid c rfl]

/-- What a line says stands behind its indentation. -/
theorem saysAt_iff {column : Nat} :
    SaysAt column text line ↔ isSilent line = false ∧ indent line = column ∧ trimStart line = text := by
  constructor
  · rintro ⟨⟨blanks, rfl, rfl, blank⟩, first⟩
    -- The text starts with something, and that is no blank: nothing of it is trimmed.
    have solid : ∀ c ∈ text.head?, isBlank c = false := by
      intro c starts
      rw [Option.mem_def.mp starts, Option.any_some] at first
      simpa using (Bool.and_eq_true_iff.mp first).1
    obtain ⟨level, left⟩ := indent_of_solid blank solid
    exact ⟨isSilent_eq_false_iff.mpr (left.symm ▸ first), level, left⟩
  · rintro ⟨spoken, rfl, rfl⟩
    refine ⟨⟨line.takeWhile isBlank, ?_, rfl, fun c member => List.mem_takeWhile_imp member⟩, ?_⟩
    · exact List.takeWhile_append_dropWhile.symm
    · exact isSilent_eq_false_iff.mp spoken

/-- A line says something exactly if it is not silent. -/
theorem speaks_iff : Speaks line ↔ isSilent line = false := by
  -- A line is silent if it is blank or a comment, which is what it does not say.
  simp [Speaks, saysAt_iff]

/-- A line starts an item if the text behind its indentation does. -/
theorem isItem_iff : isItem line = true ↔ StartsWithDash (trimStart line) := by
  -- The three cases of the test: a lone dash, a dash and a space, and anything else.
  unfold isItem StartsWithDash
  split
  · rename_i lone
    simp [lone]
  · rename_i rest marked
    rw [marked]
    exact iff_of_true rfl (.inl ⟨rest, rfl⟩)
  · rename_i other unmarked
    refine iff_of_false Bool.false_ne_true ?_
    rintro (⟨rest, same⟩ | lone)
    · exact unmarked rest same.symm
    · exact other lone

/-- A line that says something goes on with a block exactly if the test for it succeeds. -/
theorem goesOn_iff {column : Nat} :
    GoesOn column line ↔ isSilent line = false ∧ continuesBlock column line = true := by
  -- The test has one part for the depth of a line and one for an item.
  simp [GoesOn, saysAt_iff, continuesBlock, isItem_iff]

end Indentation

section Markers

variable {text : List Char}

/-- Behind its item markers a text starts neither with a blank, if it did not before, nor with another marker. -/
theorem behindMarkers_settled (solid : ∀ c ∈ text.head?, isBlank c = false) :
    (∀ c ∈ (behindMarkers text).head?, isBlank c = false) ∧ ¬ ['-', ' '] <+: behindMarkers text := by
  -- The recursion takes one marker off at a time, with the blanks behind it.
  fun_induction behindMarkers text with
  | case1 rest ih => exact ih (isBlank_head?_trimStart _)
  | case2 text unmarked =>
    -- Here the recursion stopped, so no marker is left.
    refine ⟨solid, ?_⟩
    rintro ⟨rest, same⟩
    exact unmarked rest same.symm

/-- What stands in front of it are item markers. -/
theorem exists_itemMarkers (text : List Char) :
    ∃ markers, AreItemMarkers markers ∧ text = markers ++ behindMarkers text := by
  fun_induction behindMarkers text with
  | case1 rest ih =>
    obtain ⟨later, markers, split⟩ := ih
    -- The space behind the dash is trimmed with the blanks that follow it.
    have trimmed : trimStart (' ' :: rest) = trimStart rest := List.dropWhile_cons_of_pos (by decide)
    have whole : rest.takeWhile isBlank ++ trimStart rest = rest := List.takeWhile_append_dropWhile
    rw [trimmed] at split ⊢
    refine ⟨'-' :: ' ' :: (rest.takeWhile isBlank ++ later),
      .marker (fun c member => List.mem_takeWhile_imp member) markers, ?_⟩
    rw [List.cons_append, List.cons_append, List.append_assoc, ← split, whole]
  | case2 text => exact ⟨[], .none, rfl⟩

/-- A text without a marker is left as it is. -/
theorem behindMarkers_of_unmarked (unmarked : ¬ ['-', ' '] <+: text) : behindMarkers text = text := by
  -- Only the two characters of a marker are taken off.
  unfold behindMarkers
  split
  · rename_i rest
    exact absurd ⟨rest, rfl⟩ unmarked
  · rfl

/-- With item markers in front of it a text starts with a dash, and otherwise as it does without. -/
theorem AreItemMarkers.solid {markers : List Char} (marked : AreItemMarkers markers)
    (solid : ∀ c ∈ text.head?, isBlank c = false) : ∀ c ∈ (markers ++ text).head?, isBlank c = false := by
  -- A marker starts with a dash, which is no blank.
  cases marked with
  | none => exact solid
  | marker =>
    intro c dash
    cases dash
    decide

/-- Item markers in front of a text that starts neither with a blank nor with a marker are all passed over. -/
theorem behindMarkers_append {markers : List Char} (marked : AreItemMarkers markers)
    (solid : ∀ c ∈ text.head?, isBlank c = false) (unmarked : ¬ ['-', ' '] <+: text) :
    behindMarkers (markers ++ text) = text := by
  -- One marker is taken off in each step, with the blanks behind it.
  induction marked with
  | none => exact behindMarkers_of_unmarked unmarked
  | @marker blanks later blank rest ih =>
    -- Behind the blanks of the first marker stands the dash of the next one, or the text.
    have trimmed : trimStart (' ' :: (blanks ++ later ++ text)) = later ++ text := by
      rw [trimStart, List.dropWhile_cons_of_pos (by decide), List.append_assoc]
      exact (indent_of_solid blank (rest.solid solid)).2
    rw [List.cons_append, List.cons_append, behindMarkers, trimmed, ih]

/-- A line gives its content, at the column where that starts. -/
theorem givesAt_iff {column : Nat} {line : Line} :
    GivesAt column text line ↔ contentColumn line = column ∧ content line = text := by
  constructor
  · rintro ⟨⟨blanks, markers, rfl, rfl, blank, marked⟩, solid, unmarked⟩
    have found : content (blanks ++ (markers ++ text)) = text := by
      rw [content, (indent_of_solid blank (marked.solid solid)).2, behindMarkers_append marked solid unmarked]
    have whole := contentColumn_add_content (blanks ++ (markers ++ text))
    rw [found, List.length_append, List.length_append] at whole
    exact ⟨by omega, found⟩
  · rintro ⟨rfl, rfl⟩
    -- In front of the content stand the indentation and the markers that were passed over.
    obtain ⟨markers, marked, split⟩ := exists_itemMarkers (trimStart line)
    obtain ⟨solid, unmarked⟩ := behindMarkers_settled (isBlank_head?_trimStart line)
    have whole : line = line.takeWhile isBlank ++ (markers ++ content line) := by
      rw [content, ← split]
      exact List.takeWhile_append_dropWhile.symm
    -- The column counts what stands in front of the content.
    have lengths := congrArg List.length whole
    have column := contentColumn_add_content line
    rw [List.length_append, List.length_append] at lengths
    exact ⟨⟨_, markers, whole, by omega, fun c member => List.mem_takeWhile_imp member, marked⟩, solid, unmarked⟩

end Markers

end PlanLint
