import PlanLint.Proofs.Text.Lines
import PlanLint.Yaml.Cursor

/-! The places of a text that its reader stops at, and where they are among the lines of the text. -/

namespace PlanLint

/-- A cursor that came from the start of a text. It steps over a carriage return and the newline behind
it at once, and never stands between them. -/
inductive Cursor.StandsIn (text : List Char) : Cursor → Prop
  | start : StandsIn text (.ofText text)
  | next {c : Cursor} (stands : c.StandsIn text) (single : ∀ rest, c.rest ≠ '\r' :: '\n' :: rest) :
      StandsIn text c.next
  | pair {c : Cursor} {rest : List Char} (stands : c.StandsIn text) (two : c.rest = '\r' :: '\n' :: rest) :
      StandsIn text (c.skip 2)

/-- A mark that a reader of a text can stop at. -/
def Mark.IsPlaceOf (text : List Char) (mark : Mark) : Prop := ∃ c : Cursor, c.StandsIn text ∧ c.mark = mark

/-- Every carriage return of a text has a newline right behind it. -/
def PairsReturns (text : List Char) : Prop := ∀ n, text[n]? = some '\r' → text[n + 1]? = some '\n'

variable {text : List Char} {c : Cursor}

/-- A cursor that stands in a text marks a place of it. -/
theorem Cursor.StandsIn.isPlace (stands : c.StandsIn text) : c.mark.IsPlaceOf text := ⟨c, stands, rfl⟩

/-- The first of the characters behind a cursor is the one at it. -/
theorem Cursor.peek_eq {char : Char} {rest : List Char} (front : c.rest = char :: rest) :
    c.peek = char := by
  -- The cursor has a character, so it does not see the end of the text.
  rw [Cursor.peek, front, List.headD_cons]

/-- A character that is not the end of the text is the first of those behind its cursor. -/
theorem Cursor.rest_eq_cons {char : Char} (here : c.peek = char) (real : char ≠ endOfText) :
    ∃ rest, c.rest = char :: rest := by
  -- Without a character the end of the text would be seen.
  cases behind : c.rest with
  | nil => exact absurd (by rw [← here, Cursor.peek, behind]; rfl) real
  | cons first rest => exact ⟨rest, by rw [← here, Cursor.peek_eq behind]⟩

/-- No place ahead is the place of the cursor itself. -/
theorem Cursor.ahead_zero (c : Cursor) : c.ahead 0 = c.peek := by
  -- Both see the end of the text behind it.
  cases behind : c.rest <;> simp [Cursor.ahead, Cursor.peek, behind]

/-- One step brings a character one place nearer. -/
theorem Cursor.ahead_next (c : Cursor) (n : Nat) : c.next.ahead n = c.ahead (n + 1) := by
  -- At the end of the text a step moves nothing, and nothing is ahead.
  cases behind : c.rest <;> simp [Cursor.ahead, Cursor.next, behind]

/-- A step leaves the characters behind the first one. -/
theorem Cursor.next_rest (c : Cursor) : c.next.rest = c.rest.tail := by
  -- At the end of the text there is nothing to leave out.
  unfold Cursor.next
  split
  · rename_i front
    rw [front, List.tail_nil]
  · rename_i front
    rw [front, List.tail_cons]

/-- Some steps leave the characters behind the first ones. -/
theorem Cursor.skip_rest (n : Nat) (c : Cursor) : (c.skip n).rest = c.rest.drop n := by
  -- Induction on the steps, from the cursor behind the first one.
  induction n generalizing c with
  | zero => rfl
  | succ n ih => rw [Cursor.skip, ih, Cursor.next_rest, List.drop_tail]

/-- A run and what is left behind it are all that was there. -/
theorem Cursor.takeRun_append (belongs : Char → Bool) (c : Cursor) :
    (c.takeRun belongs).1 ++ (c.takeRun belongs).2.rest = c.rest := by
  -- As many characters are dropped as the run has.
  rw [Cursor.takeRun, Cursor.skip_rest]
  exact List.prefix_iff_eq_append.mp (List.takeWhile_prefix _)

/-- A step over any character but a carriage return. -/
theorem Cursor.StandsIn.next_of_ne (stands : c.StandsIn text) (other : c.peek ≠ '\r') :
    c.next.StandsIn text :=
  stands.next fun _ front => other (Cursor.peek_eq front)

/-- A step over a given character, which is not one. -/
theorem Cursor.StandsIn.next_over {char : Char} (stands : c.StandsIn text) (here : c.peek = char)
    (other : char ≠ '\r') : c.next.StandsIn text :=
  stands.next_of_ne (here ▸ other)

/-- Steps over some characters none of which is a carriage return. -/
theorem Cursor.StandsIn.skip {n : Nat} (stands : c.StandsIn text) (others : ∀ i < n, c.ahead i ≠ '\r') :
    (c.skip n).StandsIn text := by
  -- Induction on the steps, from the cursor behind the first one.
  induction n generalizing c with
  | zero => exact stands
  | succ n ih =>
    have first : c.peek ≠ '\r' := by
      rw [← Cursor.ahead_zero]
      exact others 0 (by omega)
    refine ih (stands.next_of_ne first) fun i below => ?_
    rw [Cursor.ahead_next]
    exact others (i + 1) (by omega)

/-- Two steps. -/
theorem Cursor.StandsIn.skip_two (stands : c.StandsIn text) (first : c.peek ≠ '\r') (second : c.ahead 1 ≠ '\r') :
    (c.skip 2).StandsIn text :=
  stands.skip fun i below => by
    obtain rfl | rfl : i = 0 ∨ i = 1 := by omega
    · rwa [Cursor.ahead_zero]
    · exact second

/-- What stands ahead within a run of characters is one of them. -/
theorem Cursor.ahead_of_prefix {run : List Char} (front : run <+: c.rest) {i : Nat} (inside : i < run.length) :
    c.ahead i ∈ run := by
  -- The place is one of the run, before any character behind it.
  obtain ⟨behind, rest⟩ := front
  rw [Cursor.ahead, ← rest, List.getD_eq_getElem?_getD, List.getElem?_append_left inside,
    List.getElem?_eq_getElem inside, Option.getD_some]
  exact List.getElem_mem inside

/-- Steps over characters that stand at a cursor, none of which is a carriage return. -/
theorem Cursor.StandsIn.skip_prefix {run : List Char} (stands : c.StandsIn text) (front : run <+: c.rest)
    (others : '\r' ∉ run) {n : Nat} (within : n ≤ run.length) : (c.skip n).StandsIn text :=
  stands.skip fun i below same => others (same ▸ Cursor.ahead_of_prefix front (by omega))

variable {belongs : Char → Bool}

/-- A run ends in front of a character that does not belong to it, and at the end of the text. -/
theorem Cursor.skipRun_self (stops : ∀ char ∈ c.rest.head?, belongs char = false) :
    c.skipRun belongs = c := by
  -- The run of characters is empty.
  have none : c.rest.takeWhile belongs = [] := by
    cases behind : c.rest with
    | nil => rfl
    | cons char rest => simp [stops char (by simp [behind])]
  simp [Cursor.skipRun, Cursor.takeRun, none, Cursor.skip]

/-- A run goes on behind a character that belongs to it. -/
theorem Cursor.skipRun_next {char : Char} {rest : List Char} (front : c.rest = char :: rest)
    (member : belongs char = true) : c.skipRun belongs = c.next.skipRun belongs := by
  -- The first character is passed by one step, and the rest of the run from there.
  have behind : c.next.rest = rest := by rw [Cursor.next_rest, front, List.tail_cons]
  simp [Cursor.skipRun, Cursor.takeRun, front, behind, member, Cursor.skip]

/-- A run that would go on over a newline does not end between a carriage return and a newline. -/
theorem Cursor.StandsIn.skipRun (stands : c.StandsIn text)
    (whole : belongs '\r' = true → belongs '\n' = true) : (c.skipRun belongs).StandsIn text := by
  -- Induction on what is left of the text: a pair of a return and a newline takes two characters at once.
  induction size : c.rest.length using Nat.strongRecOn generalizing c with
  | ind count ih =>
    cases front : c.rest with
    | nil =>
      rw [Cursor.skipRun_self (by simp [front])]
      exact stands
    | cons char rest =>
      have behind : c.next.rest = rest := by rw [Cursor.next_rest, front, List.tail_cons]
      have shorter : rest.length < count := by rw [← size, front, List.length_cons]; omega
      cases member : belongs char with
      | false =>
        rw [Cursor.skipRun_self (by simp [front, member])]
        exact stands
      | true =>
        rw [Cursor.skipRun_next front member]
        by_cases two : ∃ more, c.rest = '\r' :: '\n' :: more
        · obtain ⟨more, two⟩ := two
          obtain ⟨rfl, rfl⟩ : char = '\r' ∧ rest = '\n' :: more := by simpa [front] using two
          rw [Cursor.skipRun_next behind (whole member)]
          have last : c.next.next.rest = more := by rw [Cursor.next_rest, behind, List.tail_cons]
          exact ih more.length (by rw [List.length_cons] at shorter; omega) (stands.pair two)
            (congrArg List.length last)
        · exact ih rest.length shorter (stands.next fun more pair => two ⟨more, pair⟩) (by rw [behind])

/-- The same run together with the characters that it goes over. -/
theorem Cursor.StandsIn.takeRun (stands : c.StandsIn text)
    (whole : belongs '\r' = true → belongs '\n' = true) : (c.takeRun belongs).2.StandsIn text :=
  stands.skipRun whole

/-- A run that goes over a newline also ends well behind a single step, which may have been one over a
carriage return alone. -/
theorem Cursor.StandsIn.next_skipRun (stands : c.StandsIn text) (newline : belongs '\n' = true) :
    (c.next.skipRun belongs).StandsIn text := by
  -- Only between the two characters of a line break would the cursor stand in no line.
  by_cases two : ∃ more, c.rest = '\r' :: '\n' :: more
  · obtain ⟨more, two⟩ := two
    rw [Cursor.skipRun_next (show c.next.rest = '\n' :: more by rw [Cursor.next_rest, two, List.tail_cons]) newline]
    exact (stands.pair two).skipRun fun _ => newline
  · exact (stands.next fun more two' => two ⟨more, two'⟩).skipRun fun _ => newline

/-- Spaces break no line. -/
theorem Cursor.StandsIn.skip_spaces (stands : c.StandsIn text) : (c.skipRun (· == ' ')).StandsIn text :=
  stands.skipRun (by decide)

/-- Spaces and tabs break no line. -/
theorem Cursor.StandsIn.skip_blanks (stands : c.StandsIn text) :
    (c.skipRun fun char => char == ' ' || char == '\t').StandsIn text :=
  stands.skipRun (by decide)

/-- The characters up to the end of a line break none. -/
theorem Cursor.StandsIn.skip_line (stands : c.StandsIn text) :
    (c.skipRun fun char => !endsLine char).StandsIn text :=
  stands.skipRun (by decide)

/-- A comment goes up to the end of its line. -/
theorem Cursor.StandsIn.skip_comment (stands : c.StandsIn text) :
    (if c.peek == '#' then c.skipRun fun char => !endsLine char else c).StandsIn text := by
  -- Without the sign of a comment nothing is skipped.
  split
  · exact stands.skip_line
  · exact stands

/-- A line break is gone over as a whole. -/
theorem Cursor.StandsIn.behind_lineBreak {first : Char} {behind : Cursor} (stands : c.StandsIn text)
    (broken : c.lineBreak? = some (first, behind)) : behind.StandsIn text := by
  unfold Cursor.lineBreak? at broken
  split at broken
  · simp at broken
  · rename_i rest two
    obtain ⟨-, rfl⟩ : '\n' = first ∧ c.skip 2 = behind := by simpa using broken
    exact stands.pair two
  · -- Any other break is a single character.
    rename_i char rest notTwo front
    have single : c.next.StandsIn text := stands.next fun more two => by
      rw [front] at two
      exact notTwo more (List.cons.inj two).1 (List.cons.inj two).2
    split at broken
    · obtain ⟨-, rfl⟩ : char = first ∧ c.next = behind := by simpa using broken
      exact single
    · split at broken
      · obtain ⟨-, rfl⟩ : '\n' = first ∧ c.next = behind := by simpa using broken
        exact single
      · simp at broken

/-- The same where there need not be a line break. -/
theorem Cursor.StandsIn.skipBreak (stands : c.StandsIn text) : c.skipBreak.StandsIn text := by
  -- Without a line break nothing is skipped.
  unfold Cursor.skipBreak
  cases broken : c.lineBreak? with
  | none => exact stands
  | some found => exact stands.behind_lineBreak broken

/-- The characters behind a cursor are the last ones of its text. -/
theorem Cursor.StandsIn.rest_suffix (stands : c.StandsIn text) : c.rest <:+ text := by
  -- Induction on how the cursor has come to its place.
  induction stands with
  | start => exact List.suffix_rfl
  | next stands single ih =>
    rw [Cursor.next_rest]
    exact (List.tail_suffix _).trans ih
  | pair stands two ih =>
    rw [Cursor.skip, Cursor.skip, Cursor.skip, Cursor.next_rest, Cursor.next_rest]
    exact ((List.tail_suffix _).trans (List.tail_suffix _)).trans ih

/-- What stands between a cursor and the start of its text: whole lines, and the part of a line. -/
structure Cursor.IsBehind (text lines part : List Char) (c : Cursor) : Prop where
  whole : text = lines ++ part ++ c.rest
  ended : lines = [] ∨ ∃ before, lines = before ++ ['\n']
  noNewline : '\n' ∉ part
  noReturn : '\r' ∉ part
  line : c.mark.line = lines.count '\n'
  column : c.mark.column ≤ part.length

/-- A step over a character that breaks no line stays on the line. -/
theorem Cursor.IsBehind.next_onLine {lines part : List Char} {char : Char} {rest : List Char}
    (behind : c.IsBehind text lines part) (front : c.rest = char :: rest) (noNewline : char ≠ '\n')
    (noReturn : char ≠ '\r') : c.next.IsBehind text lines (part ++ [char]) := by
  have mark : c.next.mark = c.mark.behind char rest.head? := by rw [Cursor.next, front]
  -- Neither the line nor a column more than one changes, whatever the mark makes of the character.
  have line : c.next.mark.line = c.mark.line := by
    rw [mark, Mark.behind]
    split
    · simp_all
    · split <;> rfl
  have column : c.next.mark.column ≤ c.mark.column + 1 := by
    rw [mark, Mark.behind]
    split
    · simp
    · split <;> simp
  refine ⟨?_, behind.ended, ?_, ?_, by rw [line, behind.line], ?_⟩
  · rw [Cursor.next_rest, front, behind.whole, front]
    simp
  · simp [behind.noNewline, noNewline.symm]
  · simp [behind.noReturn, noReturn.symm]
  · have := behind.column
    rw [List.length_append, List.length_singleton]
    omega

/-- Behind its break a line is a whole one, however the break is written. -/
theorem Cursor.IsBehind.newLine {lines part rest : List Char} {after : Cursor}
    (behind : c.IsBehind text lines part) (lineEnd : List Char) (front : c.rest = lineEnd ++ '\n' :: rest)
    (once : '\n' ∉ lineEnd) (left : after.rest = rest) (line : after.mark.line = c.mark.line + 1)
    (column : after.mark.column = 0) :
    after.IsBehind text (lines ++ part ++ lineEnd ++ ['\n']) [] := by
  -- The line that ends goes to the finished ones, and the new one has no characters yet.
  refine ⟨?_, .inr ⟨_, rfl⟩, by simp, by simp, ?_, by rw [column]; exact Nat.zero_le _⟩
  · rw [left, behind.whole, front]
    simp
  · rw [line, behind.line]
    simp [List.count_append, List.count_eq_zero.mpr behind.noNewline, List.count_eq_zero.mpr once]

/-- Where every carriage return comes with its newline, a cursor is behind whole lines and the part of one
more. -/
theorem Cursor.StandsIn.isBehind (stands : c.StandsIn text) (paired : PairsReturns text) :
    ∃ lines part, c.IsBehind text lines part := by
  induction stands with
  | start => exact ⟨[], [], rfl, .inl rfl, by simp, by simp, rfl, Nat.le_refl _⟩
  | @next c stands single ih =>
    obtain ⟨lines, part, behind⟩ := ih
    cases front : c.rest with
    | nil => exact ⟨lines, part, by rwa [Cursor.next, front]⟩
    | cons char rest =>
      -- A newline ends the part of a line; any other character is one more of it.
      by_cases newline : char = '\n'
      · subst newline
        exact ⟨_, _, behind.newLine [] front (by simp) (by rw [Cursor.next_rest, front]; rfl)
          (by rw [Cursor.next, front]; rfl) (by rw [Cursor.next, front]; rfl)⟩
      · refine ⟨_, _, behind.next_onLine front newline fun lone => ?_⟩
        -- A carriage return would be followed by a newline and not be stepped over alone.
        have follows := paired (lines ++ part).length (by simp [behind.whole, front, lone])
        rw [behind.whole, List.getElem?_append_right (by omega), front] at follows
        have : rest.head? = some '\n' := by
          rw [List.head?_eq_getElem?]
          simpa using follows
        obtain ⟨more, rfl⟩ : ∃ more, rest = '\n' :: more := by
          cases rest with
          | nil => simp at this
          | cons first more => exact ⟨more, by simpa using this⟩
        exact single more (by rw [front, lone])
  | @pair c rest stands two ih =>
    obtain ⟨lines, part, behind⟩ := ih
    have skipped : c.skip 2 = ⟨rest, ⟨c.mark.index + 2, c.mark.line + 1, 0⟩⟩ := by
      simp [Cursor.skip, Cursor.next, two, Mark.behind, byteOrderMark]
    exact ⟨_, _, behind.newLine ['\r'] two (by simp) (by rw [skipped]) (by rw [skipped])
      (by rw [skipped])⟩

/-- Where every carriage return comes with its newline, a place of a text is on one of its lines. -/
theorem Mark.IsPlaceOf.onLine {mark : Mark} (place : mark.IsPlaceOf text) (paired : PairsReturns text) :
    ∃ line, (splitLines text)[mark.line]? = some line ∧ mark.column ≤ line.length := by
  obtain ⟨c, stands, rfl⟩ := place
  obtain ⟨lines, part, behind⟩ := stands.isBehind paired
  -- The cursor's line goes on behind the part that it has passed, and the lines before are all whole.
  obtain ⟨piece, pieces, split⟩ := piecesBetween_within behind.noNewline c.rest
  have found : (piecesBetween '\n' text)[c.mark.line]? = some (part ++ piece) := by
    rw [behind.line, behind.whole, List.append_assoc]
    rcases behind.ended with none | ⟨before, ended⟩
    · simp [none, split]
    · rw [ended, List.append_assoc, List.singleton_append, piecesBetween_append, split,
        List.count_append, List.count_singleton_self, ← length_piecesBetween,
        List.getElem?_append_right (Nat.le_refl _)]
      simp
  refine ⟨dropReturns (part ++ piece), by rw [splitLines, List.getElem?_map, found, Option.map_some], ?_⟩
  exact Nat.le_trans behind.column (dropReturns_append behind.noReturn piece)

end PlanLint
