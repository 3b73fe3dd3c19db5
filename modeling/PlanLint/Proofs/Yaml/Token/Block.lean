import PlanLint.Proofs.Yaml.Failure
import PlanLint.Yaml.Token.Block

/-! A block scalar is read from one place of a text to another, and every failure belongs to the text. -/

namespace PlanLint

variable {text : List Char} {breaks : Breakdown → Prop} {c : Cursor} {started stop : Mark}

/-- A digit is no carriage return, and neither is the sign of a chomping. -/
theorem incrementAt_gives (stands : c.StandsIn text) :
    Gives text breaks (fun read => read.2.StandsIn text) (incrementAt started c) := by
  -- A digit is no carriage return, so the step over it leads to a place in the text.
  unfold incrementAt
  split
  · rename_i digit
    split
    · exact problemWhile_isOf stands.isPlace
    · exact stands.next_of_ne fun same => by rw [same] at digit; exact absurd digit (by decide)
  · exact stands

/-- The sign of a chomping is no carriage return. -/
theorem Cursor.StandsIn.next_chomping {chomping : Chomping} (stands : c.StandsIn text)
    (sign : chompingOf? c.peek = some chomping) : c.next.StandsIn text :=
  stands.next_of_ne fun same => by rw [same] at sign; exact absurd sign (by simp [chompingOf?])

/-- The chomping and the indentation in the header of a block scalar. -/
theorem blockIndicators_gives (stands : c.StandsIn text) :
    Gives text breaks (fun read => read.2.StandsIn text) (blockIndicators started c) := by
  -- The two may come in either order.
  unfold blockIndicators
  split
  · rename_i sign
    exact (incrementAt_gives (stands.next_chomping sign)).bind fun _ stands => stands
  · refine (incrementAt_gives stands).bind fun read stands => ?_
    obtain ⟨increment, c⟩ := read
    dsimp only at stands ⊢
    split
    · rename_i sign
      exact stands.next_chomping sign
    · exact stands

/-- The end of the line of a header. -/
theorem blockHeaderEnd_gives (stands : c.StandsIn text) :
    Gives text breaks (fun c => c.StandsIn text) (blockHeaderEnd started c) := by
  -- Spaces and a comment may follow, and then the line has to end.
  have comment := stands.skip_spaces.skip_comment
  unfold blockHeaderEnd
  dsimp only
  generalize (if (c.skipRun (· == ' ')).peek == '#' then _ else _) = behind at comment ⊢
  split
  · exact comment.skipBreak
  · exact problemWhile_isOf comment.isPlace

/-- The whole header of a block scalar. -/
theorem blockHeader_gives (stands : c.StandsIn text) :
    Gives text breaks (fun read => read.2.StandsIn text) (blockHeader started c) := by
  -- The indicators come first, and what cannot follow them is a problem at the place behind.
  unfold blockHeader
  refine (blockIndicators_gives stands).bind fun read stands => ?_
  obtain ⟨header, c⟩ := read
  dsimp only at stands ⊢
  split
  · exact problemWhile_isOf stands.isPlace
  · exact (blockHeaderEnd_gives stands).bind fun _ stands => stands

/-- Blank lines of a text: they end at a place of it, and so does the last one that is whole. -/
structure BlankLines.IsOf (text : List Char) (blank : BlankLines) : Prop where
  stop : blank.stop.IsPlaceOf text
  cursor : blank.cursor.StandsIn text

/-- An indentation, or a part of it. -/
theorem Cursor.StandsIn.skipIndent (indent : Nat) (stands : c.StandsIn text) :
    (skipIndent indent c).StandsIn text :=
  stands.skip_prefix (List.takeWhile_prefix _)
    (fun member => absurd (List.all_eq_true.mp List.all_takeWhile '\r' member) (by decide))
    (Nat.min_le_left _ _)

/-- The blank lines behind a place of a text. -/
theorem blankLines_isOf (indent : Nat) {fuel : Nat} (stands : c.StandsIn text) (place : stop.IsPlaceOf text) :
    (blankLines indent fuel c stop).IsOf text := by
  -- The place where the last whole line ends goes along as a hypothesis of its own.
  induction fuel generalizing c stop with
  | zero => exact ⟨place, stands⟩
  | succ fuel ih =>
    have indented := stands.skipIndent indent
    rw [blankLines]
    dsimp only
    split
    · exact ⟨place, indented⟩
    · rename_i broken
      have behind := indented.behind_lineBreak broken
      have more := ih behind behind.isPlace
      exact ⟨more.stop, more.cursor⟩

/-- The blank lines in front of the first line of a block scalar. -/
theorem leadingLines_isOf {fuel : Nat} (stands : c.StandsIn text) (place : stop.IsPlaceOf text) :
    (leadingLines fuel c stop).blank.IsOf text := by
  -- Induction on the fuel: a space is passed on the same line, and a break leads to the next one.
  induction fuel generalizing c stop with
  | zero => exact ⟨place, stands⟩
  | succ fuel ih =>
    rw [leadingLines]
    split
    · rename_i space
      exact ih (stands.next_over (eq_of_beq space) (by decide)) place
    · split
      · exact ⟨place, stands⟩
      · rename_i broken
        have behind := stands.behind_lineBreak broken
        have more := ih behind behind.isPlace
        exact ⟨more.stop, more.cursor⟩

/-- The start of the text of a block scalar. -/
theorem blockStart_gives (least : Nat) (header : BlockHeader) (stands : c.StandsIn text) :
    Gives text breaks (fun read => read.1.IsOf text) (blockStart least header c) := by
  -- The indentation is given in the header, or found from the lines in front.
  unfold blockStart
  split
  · exact blankLines_isOf _ stands stands.isPlace
  · have leading : (leadingLines (c.rest.length + 1) c c.mark).blank.IsOf text :=
      leadingLines_isOf stands stands.isPlace
    dsimp only
    split
    · split
      · exact problemAt_isOf leading.cursor.isPlace
      · exact leading
    · exact leading

/-- A block scalar of a text. -/
structure BlockScalar.IsOf (text : List Char) (scalar : BlockScalar) : Prop where
  stop : scalar.stop.IsPlaceOf text
  cursor : scalar.cursor.StandsIn text

/-- A block scalar ends where the blank lines behind it do. -/
theorem blockScalarEnd_isOf {blank : BlankLines} (chomping : Chomping) (last : Option Char)
    (ends : blank.IsOf text) : (blockScalarEnd chomping last blank).IsOf text := by
  -- The chomping only changes the text of the scalar.
  cases chomping <;> exact ⟨ends.stop, ends.cursor⟩

/-- The lines of a block scalar. -/
theorem blockLinesFrom_isOf {folded markers : Bool} {chomping : Chomping} {indent fuel : Nat}
    {last : Option Char} {blank : BlankLines} (starts : blank.IsOf text) :
    (blockLinesFrom folded markers chomping indent fuel last blank).IsOf text := by
  induction fuel generalizing last blank with
  | zero => exact blockScalarEnd_isOf chomping last starts
  | succ fuel ih =>
    rw [blockLinesFrom]
    dsimp only
    split
    · -- A line of text up to its break, and the blank lines behind it.
      have line : (blank.cursor.takeRun fun char => !endsLine char).2.StandsIn text := starts.cursor.skip_line
      generalize blank.cursor.takeRun (fun char => !endsLine char) = taken at line ⊢
      obtain ⟨run, c⟩ := taken
      dsimp only at line ⊢
      have next : (blankLines indent (c.skipBreak.rest.length + 1) c.skipBreak c.skipBreak.mark).IsOf text :=
        blankLines_isOf indent line.skipBreak line.skipBreak.isPlace
      generalize blankLines indent (c.skipBreak.rest.length + 1) c.skipBreak c.skipBreak.mark = blank at next ⊢
      -- Only the text of the scalar depends on how its lines are joined.
      split
      · have ends := blockScalarEnd_isOf chomping (c.lineBreak?.map (·.1)) next
        exact ⟨ends.stop, ends.cursor⟩
      · have more : BlockScalar.IsOf text
            (blockLinesFrom folded markers chomping indent fuel (c.lineBreak?.map (·.1)) blank) := ih next
        exact ⟨more.stop, more.cursor⟩
    · exact blockScalarEnd_isOf chomping last starts

/-- A block scalar, at whose sign the cursor stands. -/
theorem readBlock_gives {folded : Bool} {least : Nat} (stands : c.StandsIn text) (sign : c.peek ≠ '\r') :
    Gives text breaks (·.IsOf text) (readBlock folded least c) := by
  -- Sign, header, first lines and the rest are read one behind the other.
  refine (blockHeader_gives (stands.next_of_ne sign)).bind fun read stands => ?_
  refine (blockStart_gives least read.1 stands).bind fun lines starts => ?_
  exact blockLinesFrom_isOf starts

end PlanLint
