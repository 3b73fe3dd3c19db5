import PlanLint.Source.Key
import PlanLint.Source.Block

/-! Where on its line a key can stand. -/

namespace PlanLint

/-- A text behind its item markers is no longer than with them. -/
theorem behindMarkers_length_le (text : List Char) : (behindMarkers text).length ≤ text.length := by
  -- Each marker is taken off together with the blanks behind it.
  fun_induction behindMarkers text with
  | case1 rest ih =>
    have shorter := trimStart_length_le (' ' :: rest)
    simp only [List.length_cons] at *
    omega
  | case2 text => exact Nat.le_refl _

/-- The indentation of a line and what stands behind it make up the line. -/
theorem indent_add_trimStart (line : Line) : indent line + (trimStart line).length = line.length := by
  -- The line is split where its first run of blanks ends.
  rw [indent, trimStart, ← List.length_append, List.takeWhile_append_dropWhile]

/-- The content of a line starts behind its indentation. -/
theorem indent_le_contentColumn (line : Line) : indent line ≤ contentColumn line := by
  -- The content lacks at least the indentation.
  have whole := indent_add_trimStart line
  have shorter := behindMarkers_length_le (trimStart line)
  unfold contentColumn content
  omega

/-- A line that starts an item is a lone dash or has its content behind the dash. -/
theorem content_of_isItem {line : Line} (item : isItem line = true) :
    content line = ['-'] ∨ indent line < contentColumn line := by
  have whole := indent_add_trimStart line
  unfold isItem at item
  split at item
  · rename_i lone
    refine .inl ?_
    rw [content, lone]
    simp [behindMarkers]
  · rename_i rest marked
    -- The dash is gone from the content, so the content is strictly shorter.
    refine .inr ?_
    have trimmed := trimStart_length_le (' ' :: rest)
    have shorter := behindMarkers_length_le (trimStart (' ' :: rest))
    rw [marked] at whole
    rw [contentColumn, content, marked, behindMarkers]
    simp only [List.length_cons] at *
    omega
  · simp at item

/-- A line that starts an item says something. -/
theorem isSilent_of_isItem {line : Line} (item : isItem line = true) : isSilent line = false := by
  -- The dash is neither blank nor the sign of a comment.
  unfold isItem at item
  unfold isSilent
  split at item <;> simp_all

/-- A key that is found on a line stands at the start of its content, and a colon follows. -/
theorem matchKey_eq_some {line : Line} {key : List Char} {number : Nat} {position : KeyPosition}
    (found : matchKey line key number = some position) :
    (key ++ [':']) <+: content line ∧ position.line = number ∧
      position.keyStart = contentColumn line := by
  -- Both ways to succeed give the same columns.
  unfold matchKey at found
  dsimp only at found
  split at found
  · rename_i starts
    refine ⟨List.isPrefixOf_iff_prefix.mp starts, ?_⟩
    split at found
    · split at found
      · cases found
        exact ⟨rfl, rfl⟩
      · simp at found
    · cases found
      exact ⟨rfl, rfl⟩
  · simp at found

/-- A key that is found on a line has the number of that line. -/
theorem matchKey_line {line : Line} {key : List Char} {number : Nat} {position : KeyPosition}
    (found : matchKey line key number = some position) : position.line = number :=
  (matchKey_eq_some found).2.1

/-- A key never stands before the indentation of its line. -/
theorem indent_le_keyStart {line : Line} {key : List Char} {number : Nat} {position : KeyPosition}
    (found : matchKey line key number = some position) : indent line ≤ position.keyStart := by
  -- The key starts where the content does.
  rw [(matchKey_eq_some found).2.2]
  exact indent_le_contentColumn line

/-- A key on a line that goes on with a block stands deeper than the block. -/
theorem lt_keyStart_of_continuesBlock {column : Nat} {line : Line} {key : List Char} {number : Nat}
    {position : KeyPosition} (continues : continuesBlock column line = true)
    (found : matchKey line key number = some position) : column < position.keyStart := by
  -- The key starts with the content, which is behind the indentation and behind a dash.
  obtain ⟨starts, -, start⟩ := matchKey_eq_some found
  have behind := indent_le_contentColumn line
  simp only [continuesBlock, Bool.or_eq_true, Bool.and_eq_true, decide_eq_true_eq, beq_iff_eq] at continues
  rcases continues with deep | ⟨level, item⟩
  · omega
  · rcases content_of_isItem item with lone | deep
    · -- A lone dash leaves no room for a colon.
      have colon : ':' ∈ content line := starts.subset (by simp)
      rw [lone] at colon
      simp at colon
    · omega

/-- A key that does not look like a comment is only found on lines that say something. -/
theorem isSilent_of_matchKey {line : Line} {key : List Char} {number : Nat} {position : KeyPosition}
    (named : key.head? ≠ some '#') (found : matchKey line key number = some position) :
    isSilent line = false := by
  have starts := (matchKey_eq_some found).1
  cases silent : isSilent line with
  | false => rfl
  | true =>
    exfalso
    unfold isSilent at silent
    split at silent
    · rename_i blank
      -- A blank line has no content for the colon to stand in.
      have colon : ':' ∈ content line := starts.subset (by simp)
      rw [content, blank] at colon
      simp [behindMarkers] at colon
    · rename_i c rest text
      -- A comment is its own content, so it would start with the key.
      obtain rfl : c = '#' := by simpa using silent
      have kept : content line = '#' :: rest := by
        rw [content, text]
        simp [behindMarkers]
      rw [kept] at starts
      cases key with
      | nil => simp at starts
      | cons first key =>
        obtain ⟨same, -⟩ := List.cons_prefix_cons.mp starts
        exact named (by rw [same]; rfl)

end PlanLint
