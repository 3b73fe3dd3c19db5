import PlanLint.Proofs.Validation
import PlanLint.Proofs.Yaml.Read

/-! Where the finding about a text without a document points. -/

namespace PlanLint

/-- The range of a syntax error is on a line that is there. -/
theorem syntaxRange_onLine {lines : List Line} (some_line : lines ≠ []) (position : Position) :
    ∃ number line stop, syntaxRange lines position = .onLine number position.character stop ∧
      lines[number]? = some line ∧ position.character ≤ stop := by
  have size := List.length_pos_iff.mpr some_line
  -- A position below the last line is moved up to it, so the number is always a line's.
  have inside : min position.line (lines.length - 1) < lines.length := by omega
  exact ⟨_, lines[min position.line (lines.length - 1)], _, rfl, List.getElem?_eq_getElem inside,
    Nat.le_max_right _ _⟩

/-- It ends on that line if the position is on a line and no further than its end. -/
theorem syntaxRange_inside {lines : List Line} {position : Position} {line : Line}
    (there : lines[position.line]? = some line) (within : position.character ≤ line.length) :
    ∃ stop, syntaxRange lines position = .onLine position.line position.character stop ∧
      position.character ≤ stop ∧ stop ≤ line.length := by
  obtain ⟨inside, -⟩ := List.getElem?_eq_some_iff.mp there
  -- The position is on a line already, and is not moved.
  have number : min position.line (lines.length - 1) = position.line := by omega
  refine ⟨max (min (position.character + syntaxWidth) line.length) position.character, ?_,
    Nat.le_max_right _ _, by omega⟩
  simp [syntaxRange, number, there]

/-- Where every carriage return comes with its newline, a problem of a text is on one of its lines. -/
theorem position_onLine {text : List Char} {breaks : Breakdown → Prop} {found : Problem}
    (belongs : (ReadError.problem found).IsOf text breaks) (paired : PairsReturns text) :
    ∃ line, (splitLines text)[found.position.line]? = some line ∧ found.position.character ≤ line.length := by
  unfold Problem.position
  split
  · -- A problem without a place is reported at the start of the text.
    obtain ⟨first, others, lines⟩ := List.exists_cons_of_ne_nil (splitLines_ne_nil text)
    exact ⟨first, by simp [lines], Nat.zero_le _⟩
  · rename_i mark here
    cases belongs with
    | problem placed => exact (placed mark here).onLine paired

/-- A text without a document gets one finding. It is an error on a line of the text, and it ends on that
line if every carriage return of the text comes with its newline. -/
theorem unreadable_located {text : List Char} {allows : Bool} {outcome : ParseOutcome}
    (parsed : parseDocument text (splitLines text) allows = .ok outcome) (unread : outcome.document = none) :
    ∃ finding number line start stop, outcome.diagnostics = [finding] ∧ finding.severity = .error ∧
      finding.range = .onLine number start stop ∧ (splitLines text)[number]? = some line ∧ start ≤ stop ∧
      (PairsReturns text → stop ≤ line.length) := by
  rcases parseDocument_eq_ok parsed with ⟨entries, -, rfl⟩ | rfl | ⟨found, read, rfl⟩
  · exact absurd unread (by simp)
  · -- A document that is no mapping is reported on the whole first line.
    obtain ⟨first, others, lines⟩ := List.exists_cons_of_ne_nil (splitLines_ne_nil text)
    exact ⟨_, 0, first, 0, first.length, rfl, rfl, by simp [invalidDocument, errorAt, documentStartRange, lines],
      by simp [lines], Nat.zero_le _, fun _ => Nat.le_refl _⟩
  · have belongs := (readText_isOf text).settle allows
    rw [read] at belongs
    by_cases paired : PairsReturns text
    · -- The place of the problem is on a line, so that nothing has to be fitted.
      obtain ⟨line, there, within⟩ := position_onLine belongs paired
      obtain ⟨stop, range, ordered, inside⟩ := syntaxRange_inside there within
      exact ⟨_, _, line, _, stop, rfl, rfl, range, there, ordered, fun _ => inside⟩
    · obtain ⟨number, line, stop, range, there, ordered⟩ :=
        syntaxRange_onLine (splitLines_ne_nil text) found.position
      exact ⟨_, number, line, _, stop, rfl, rfl, range, there, ordered, fun pairs => absurd pairs paired⟩

/-- A key with an unclosed bracket as its value, on lines that end with a carriage return and a newline. -/
def unclosedText : List Char := ['a', ':', '\r', '\n', ' ', '[', '\r', '\n']

/-- The finding about the unclosed bracket is behind the last newline. -/
theorem unclosedText_located :
    ∃ outcome, parseDocument unclosedText (splitLines unclosedText) false = .ok outcome ∧
      outcome.document = none ∧ PairsReturns unclosedText ∧
      ∃ finding number line start stop, outcome.diagnostics = [finding] ∧ finding.severity = .error ∧
        finding.range = .onLine number start stop ∧ (splitLines unclosedText)[number]? = some line ∧
        start ≤ stop ∧ stop ≤ line.length := by
  -- Whether there is a document is computed; everything else comes from the general statement.
  have unread : (parseDocument unclosedText (splitLines unclosedText) false).toOption.map (·.document.isNone) =
      some true := by
    decide +kernel
  have paired : PairsReturns unclosedText := by
    have few : ∀ n < 8, unclosedText[n]? = some '\r' → unclosedText[n + 1]? = some '\n' := by decide
    intro n here
    exact few n (List.getElem?_eq_some_iff.mp here).1 here
  cases parsed : parseDocument unclosedText (splitLines unclosedText) false with
  | error cause => simp [parsed, Except.toOption] at unread
  | ok outcome =>
    have none : outcome.document = none := by simpa [parsed, Except.toOption] using unread
    obtain ⟨finding, number, line, start, stop, only, error, range, there, ordered, inside⟩ :=
      unreadable_located parsed none
    exact ⟨outcome, rfl, none, paired, finding, number, line, start, stop, only, error, range, there, ordered,
      inside paired⟩

/-- A mapping in the value of another one, behind carriage returns that its reader takes for line breaks. -/
def loneReturnText : List Char :=
  ['p', 'r', 'o', 'j', 'e', 'c', 't', ':', ' ', 'p', '\r', '\r', ' ', ' ', 'b', 'a', 'd', ':', ' ', '[',
    '\r', '\r', '\n', 'v', 'e', 'r', 's', 'i', 'o', 'n', ':', ' ', '1', '.', '0', '\n']

/-- The finding about it stands five columns behind the end of an empty line. -/
theorem loneReturnText_misplaced :
    ∃ outcome, parseDocument loneReturnText (splitLines loneReturnText) false = .ok outcome ∧
      outcome.document = none ∧ outcome.diagnostics.map (·.range) = [.onLine 2 5 5] ∧
      (splitLines loneReturnText)[2]? = some [] ∧
      ¬ ∃ finding number line start stop, outcome.diagnostics = [finding] ∧
        finding.range = .onLine number start stop ∧ (splitLines loneReturnText)[number]? = some line ∧
        stop ≤ line.length := by
  have read : (parseDocument loneReturnText (splitLines loneReturnText) false).toOption.map (fun outcome =>
      (outcome.document.isNone, outcome.diagnostics.map (·.range))) = some (true, [.onLine 2 5 5]) := by
    decide +kernel
  have empty : (splitLines loneReturnText)[2]? = some [] := by decide +kernel
  cases parsed : parseDocument loneReturnText (splitLines loneReturnText) false with
  | error cause => simp [parsed, Except.toOption] at read
  | ok outcome =>
    obtain ⟨unread, range⟩ : outcome.document = none ∧ outcome.diagnostics.map (·.range) = [.onLine 2 5 5] := by
      simpa [parsed, Except.toOption] using read
    refine ⟨outcome, rfl, unread, range, empty, ?_⟩
    rintro ⟨finding, number, line, start, stop, only, placed, there, inside⟩
    -- The range is known, so the line is the empty one.
    have same : TextRange.onLine number start stop = .onLine 2 5 5 := by simpa [only, placed] using range
    obtain ⟨⟨rfl, rfl⟩, -, rfl⟩ : (number = 2 ∧ start = 5) ∧ number = 2 ∧ stop = 5 := by
      simpa [TextRange.onLine] using same
    rw [empty] at there
    obtain rfl := Option.some.inj there
    exact absurd inside (by simp)

end PlanLint
