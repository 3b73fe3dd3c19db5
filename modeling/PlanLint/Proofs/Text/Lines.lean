import Mathlib.Data.List.DropRight
import PlanLint.Text.Lines

/-! The pieces of a text between separators, and the lines that are such pieces. -/

namespace PlanLint

/-- The pieces of a text are those of the list that it is. -/
theorem piecesBetween_eq_splitOn (separator : Char) (text : List Char) :
    piecesBetween separator text = text.splitOn separator := by
  -- Induction on the text, which both sides take character by character.
  induction text with
  | nil => rfl
  | cons c rest ih =>
    rw [piecesBetween, List.splitOn_cons_eq_if_modifyHead, ih]
    split
    · rfl
    · -- There is a first piece, and the character is put in front of it.
      obtain ⟨piece, pieces, split⟩ := List.exists_cons_of_ne_nil (List.splitOn_ne_nil separator rest)
      rw [split, List.modifyHead_cons]

/-- A text has pieces. -/
theorem piecesBetween_ne_nil (separator : Char) (text : List Char) : piecesBetween separator text ≠ [] := by
  -- A text without a separator is one piece by itself.
  rw [piecesBetween_eq_splitOn]
  exact List.splitOn_ne_nil separator text

/-- Behind a separator the pieces are those of the text there. -/
theorem piecesBetween_append (separator : Char) (front rest : List Char) :
    piecesBetween separator (front ++ separator :: rest) =
      piecesBetween separator front ++ piecesBetween separator rest := by
  -- The separator in the middle is one at which the text is cut.
  simp only [piecesBetween_eq_splitOn, List.splitOn_append_cons_self]

/-- Characters in front of a text that are no separators belong to its first piece. -/
theorem piecesBetween_within {separator : Char} {part : List Char} (absent : separator ∉ part)
    (rest : List Char) : ∃ piece pieces, piecesBetween separator (part ++ rest) = (part ++ piece) :: pieces := by
  -- Induction on the characters in front: each one joins the piece of those behind it.
  induction part with
  | nil =>
    obtain ⟨piece, pieces, split⟩ := List.exists_cons_of_ne_nil (piecesBetween_ne_nil separator rest)
    exact ⟨piece, pieces, split⟩
  | cons c part ih =>
    rw [List.mem_cons, not_or] at absent
    obtain ⟨piece, pieces, split⟩ := ih absent.2
    refine ⟨piece, pieces, ?_⟩
    rw [List.cons_append, piecesBetween, if_neg (by simpa using Ne.symm absent.1), split, List.cons_append]

/-- A text without the separator is one piece. -/
theorem piecesBetween_of_absent {separator : Char} {text : List Char} (absent : separator ∉ text) :
    piecesBetween separator text = [text] := by
  -- There is no place to cut at.
  rw [piecesBetween_eq_splitOn, List.splitOn_eq_singleton absent]

/-- No piece contains a separator. -/
theorem not_mem_of_mem_piecesBetween {separator : Char} {text piece : List Char}
    (member : piece ∈ piecesBetween separator text) : separator ∉ piece := by
  induction text generalizing piece with
  | nil =>
    obtain rfl := List.mem_singleton.mp member
    exact List.not_mem_nil
  | cons c rest ih =>
    obtain ⟨first, pieces, split⟩ := List.exists_cons_of_ne_nil (piecesBetween_ne_nil separator rest)
    rw [piecesBetween, split] at member
    rw [split] at ih
    split at member
    · rcases List.mem_cons.mp member with rfl | later
      · exact List.not_mem_nil
      · exact ih later
    · rename_i other
      rcases List.mem_cons.mp member with rfl | later
      · -- The character in front of the first piece is no separator.
        rw [List.mem_cons, not_or]
        exact ⟨fun same => other (beq_iff_eq.mpr same.symm), ih (List.mem_cons_self ..)⟩
      · exact ih (List.mem_cons_of_mem _ later)

/-- There is one piece more than there are separators. -/
theorem length_piecesBetween (separator : Char) (text : List Char) :
    (piecesBetween separator text).length = text.count separator + 1 := by
  -- Induction on the text: a separator opens a piece, any other character goes into the first one.
  induction text with
  | nil => rfl
  | cons c rest ih =>
    rw [piecesBetween]
    split
    · rename_i same
      rw [beq_iff_eq] at same
      rw [List.length_cons, ih, same, List.count_cons_self]
    · rename_i other
      rw [List.count_cons_of_ne (by simpa using other), ← ih]
      split <;> simp_all

/-- Without a carriage return in front of it, a piece keeps its first characters. -/
theorem dropReturns_append {part : List Char} (noReturn : '\r' ∉ part) (rest : List Char) :
    part.length ≤ (dropReturns (part ++ rest)).length := by
  -- Returns are dropped from the end, at most down to the part.
  have kept : part.reverse.dropWhile (· == '\r') = part.reverse := by
    cases reversed : part.reverse with
    | nil => rfl
    | cons last more =>
      have member : last ∈ part := by rw [← List.mem_reverse, reversed]; exact List.mem_cons_self
      have other : last ≠ '\r' := fun same => noReturn (same ▸ member)
      simp [other]
  rw [dropReturns, List.length_reverse, List.reverse_append, List.dropWhile_append]
  split
  · simp [kept]
  · rw [List.length_append, List.length_reverse]
    omega

/-- Dropping the carriage returns at the end is a cut from the right. -/
theorem dropReturns_eq_rdropWhile (piece : List Char) : dropReturns piece = piece.rdropWhile (· == '\r') := rfl

/-- Carriage returns at the end make no difference. -/
theorem dropReturns_append_returns {returns : List Char} (only : ∀ c ∈ returns, c = '\r') (part : List Char) :
    dropReturns (part ++ returns) = dropReturns part := by
  -- Read backwards the returns come first, and are dropped.
  have dropped : ∀ c ∈ returns.reverse, (c == '\r') = true := by
    intro c member
    rw [only c (List.mem_reverse.mp member)]
    rfl
  rw [dropReturns, dropReturns, List.reverse_append, List.dropWhile_append_of_pos dropped]

/-- A piece stays as it is exactly if it does not end with one. -/
theorem dropReturns_eq_self_iff {piece : List Char} :
    dropReturns piece = piece ↔ piece.getLast? ≠ some '\r' := by
  -- Dropping from the end only stops at a last character that is kept.
  rw [dropReturns_eq_rdropWhile, List.rdropWhile_eq_self_iff]
  rcases List.eq_nil_or_concat piece with rfl | ⟨front, last, rfl⟩
  · simp
  · simp

/-- So a piece without a carriage return stays as it is. -/
theorem dropReturns_of_absent {piece : List Char} (noReturn : '\r' ∉ piece) : dropReturns piece = piece :=
  dropReturns_eq_self_iff.mpr fun last => noReturn (List.mem_of_getLast? last)

/-- A line in front of a newline is the first line. -/
theorem splitLines_cons {line : List Char} (noNewline : '\n' ∉ line) (noReturn : '\r' ∉ line) (rest : List Char) :
    splitLines (line ++ '\n' :: rest) = line :: splitLines rest := by
  -- The newline ends the first piece, from which nothing is dropped.
  rw [splitLines, piecesBetween_append, piecesBetween_of_absent noNewline, List.map_append, List.map_singleton,
    dropReturns_of_absent noReturn]
  rfl

/-- A line is the only line. -/
theorem splitLines_single {line : List Char} (noNewline : '\n' ∉ line) (noReturn : '\r' ∉ line) :
    splitLines line = [line] := by
  -- The text is one piece, from which nothing is dropped.
  rw [splitLines, piecesBetween_of_absent noNewline, List.map_singleton, dropReturns_of_absent noReturn]

/-- A text has lines. -/
theorem splitLines_ne_nil (text : List Char) : splitLines text ≠ [] := by
  -- There are as many lines as pieces.
  rw [splitLines, ne_eq, List.map_eq_nil_iff]
  exact piecesBetween_ne_nil '\n' text

end PlanLint
