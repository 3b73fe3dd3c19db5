import Mathlib.Data.List.Forall2
import PlanLint.Proofs.Text.Lines
import PlanLint.Session

/-! The lines of a text are its pieces between newlines, but for carriage returns at their ends. So they are the same
whichever way the lines end, and their columns are those of the text. -/

namespace PlanLint

/-- A text with a carriage return in front of each of its newlines. -/
def withReturns (text : List Char) : List Char := text.flatMap fun c => if c == '\n' then ['\r', '\n'] else [c]

/-- A line of a piece of text: the beginning of it that the carriage returns at its end leave. -/
structure IsLineOf (line : Line) (piece : List Char) : Prop where
  returns : ∃ returns, piece = line ++ returns ∧ ∀ c ∈ returns, c = '\r'
  last : line.getLast? ≠ some '\r'

/-- How a text is divided into lines. -/
structure DividesIntoLines (text : List Char) : Prop where
  /-- Its pieces contain no newline, and with newlines between them they are the text. -/
  whole : joinLines (piecesBetween '\n' text) = text
  apart : ∀ piece ∈ piecesBetween '\n' text, '\n' ∉ piece
  /-- The lines are those of the pieces, in their order. -/
  lines : List.Forall₂ IsLineOf (splitLines text) (piecesBetween '\n' text)
  /-- There is one line more than there are newlines. -/
  count : (splitLines text).length = text.count '\n' + 1
  /-- No line contains a newline or ends with a carriage return. -/
  plain : ∀ line ∈ splitLines text, '\n' ∉ line ∧ line.getLast? ≠ some '\r'
  /-- Carriage returns in front of the newlines make no difference. -/
  returned : splitLines (withReturns text) = splitLines text
  /-- The lines give the text back exactly if no piece of it ends with a carriage return. -/
  joined : joinLines (splitLines text) = text ↔ ∀ piece ∈ piecesBetween '\n' text, piece.getLast? ≠ some '\r'

/-- The line of a piece is what is left of it without the carriage returns at its end. -/
theorem isLineOf_dropReturns (piece : List Char) : IsLineOf (dropReturns piece) piece where
  returns := by
    refine ⟨piece.rtakeWhile (· == '\r'), List.rdropWhile_append_rtakeWhile.symm, ?_⟩
    intro c member
    have same := List.mem_rtakeWhile_imp (p := (· == '\r')) member
    exact beq_iff_eq.mp same
  last := by
    -- What is left cannot be cut again.
    rw [← dropReturns_eq_self_iff, dropReturns_eq_rdropWhile, dropReturns_eq_rdropWhile, List.rdropWhile_idempotent]

/-- With newlines between them, the pieces of a text are the text. -/
theorem joinLines_piecesBetween (text : List Char) : joinLines (piecesBetween '\n' text) = text := by
  -- Both functions are those of the library that undo each other.
  rw [joinLines, piecesBetween_eq_splitOn, List.intercalate_splitOn]

/-- Texts without newlines are the pieces of what they are joined to. -/
theorem piecesBetween_joinLines {lines : List Line} (some_line : lines ≠ [])
    (apart : ∀ line ∈ lines, '\n' ∉ line) : piecesBetween '\n' (joinLines lines) = lines := by
  -- No piece may hold the separator, or the join could not be undone.
  rw [joinLines, piecesBetween_eq_splitOn, List.splitOn_intercalate '\n' apart some_line]

section Split

variable {text : List Char}

/-- A line contains no newline and does not end with a carriage return. -/
theorem plain_of_mem_splitLines {line : Line} (member : line ∈ splitLines text) :
    '\n' ∉ line ∧ line.getLast? ≠ some '\r' := by
  obtain ⟨piece, among, rfl⟩ := List.mem_map.mp member
  obtain ⟨⟨returns, split, -⟩, last⟩ := isLineOf_dropReturns piece
  refine ⟨?_, last⟩
  intro newline
  -- It would be in the piece as well.
  apply not_mem_of_mem_piecesBetween among
  rw [split]
  exact List.mem_append_left returns newline

/-- A newline at the start of a text ends an empty line. -/
theorem splitLines_newline (text : List Char) : splitLines ('\n' :: text) = [] :: splitLines text := rfl

/-- Any other character goes in front of the first line; only a carriage return may be dropped there again. -/
theorem splitLines_other {c : Char} (other : c ≠ '\n') (text : List Char) :
    splitLines (c :: text) = (splitLines text).modifyHead fun line => dropReturns (c :: line) := by
  obtain ⟨piece, pieces, split⟩ := List.exists_cons_of_ne_nil (piecesBetween_ne_nil '\n' text)
  -- The carriage returns at the end of the piece do not matter, whatever stands in front of it.
  obtain ⟨⟨returns, kept, only⟩, -⟩ := isLineOf_dropReturns piece
  have first : dropReturns (c :: piece) = dropReturns (c :: dropReturns piece) := by
    conv_lhs => rw [kept, ← List.cons_append, dropReturns_append_returns only]
  rw [splitLines, splitLines, piecesBetween, if_neg (by simpa using other), split]
  rw [List.map_cons, List.map_cons, List.modifyHead_cons, first]

/-- Carriage returns in front of the newlines are not seen in the lines. -/
theorem splitLines_withReturns (text : List Char) : splitLines (withReturns text) = splitLines text := by
  -- Each character has the same effect on both sides, and the carriage return in front of a newline has none.
  induction text with
  | nil => rfl
  | cons c rest ih =>
    rw [withReturns, List.flatMap_cons, ← withReturns]
    by_cases newline : c = '\n'
    · -- The carriage return is on a line of its own, from which it is dropped.
      subst newline
      have alone : dropReturns ['\r'] = [] := by decide
      rw [if_pos (beq_self_eq_true '\n'), List.cons_append, List.singleton_append, splitLines_other (by decide),
        splitLines_newline,
        splitLines_newline, List.modifyHead_cons, alone, ih]
    · rw [if_neg (by simpa using newline), List.singleton_append, splitLines_other newline,
        splitLines_other newline, ih]

/-- The lines of a text give it back exactly if none of its pieces ends with a carriage return. -/
theorem joinLines_splitLines_iff :
    joinLines (splitLines text) = text ↔ ∀ piece ∈ piecesBetween '\n' text, piece.getLast? ≠ some '\r' := by
  constructor
  · intro back
    -- The lines are pieces without newlines that make up the text, so they are the pieces of the text.
    have same : piecesBetween '\n' text = splitLines text := by
      conv_lhs => rw [← back]
      exact piecesBetween_joinLines (splitLines_ne_nil text) fun line member => (plain_of_mem_splitLines member).1
    intro piece member
    rw [same] at member
    exact (plain_of_mem_splitLines member).2
  · intro kept
    have same : splitLines text = piecesBetween '\n' text := by
      calc (piecesBetween '\n' text).map dropReturns
          = (piecesBetween '\n' text).map id :=
            List.map_congr_left fun piece member => dropReturns_eq_self_iff.mpr (kept piece member)
        _ = piecesBetween '\n' text := List.map_id _
    rw [same, joinLines_piecesBetween]

end Split

/-- Any text is divided into lines at its newlines, whichever way the lines end, and every line starts where the
piece of the text that it comes from does. -/
theorem text_divided (text : List Char) : DividesIntoLines text where
  whole := joinLines_piecesBetween text
  apart _ := not_mem_of_mem_piecesBetween
  lines := by
    -- Each line is made from the piece at its own place.
    rw [splitLines, List.forall₂_map_left_iff, List.forall₂_same]
    exact fun piece _ => isLineOf_dropReturns piece
  count := by rw [splitLines, List.length_map, length_piecesBetween]
  plain _ := plain_of_mem_splitLines
  returned := splitLines_withReturns text
  joined := joinLines_splitLines_iff

/-- Only the carriage returns at the end of a piece are dropped, however many there are. -/
example : splitLines "a\r\n\r\r\nb\rc\n".toList = ["a", "", "b\rc", ""].map (·.toList) := by decide

end PlanLint
