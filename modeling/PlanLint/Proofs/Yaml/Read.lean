import PlanLint.Proofs.Yaml.Node.Parser
import PlanLint.Yaml.Read

/-! Reading a text gives a value, or fails with what belongs to the text. -/

namespace PlanLint

variable {text : List Char}

/-- The problem of a character that no text may hold has no place. -/
theorem firstUnacceptable?_isOf {breaks : Breakdown → Prop} {position : Nat} {rest : List Char} {failure : ReadError}
    (found : firstUnacceptable? position rest = some failure) : failure.IsOf text breaks := by
  -- The problem is reported with the number of the character, not with a mark.
  induction rest generalizing position with
  | nil => simp [firstUnacceptable?] at found
  | cons c rest ih =>
    rw [firstUnacceptable?] at found
    split at found
    · exact ih found
    · rw [← Option.some.inj found]
      exact problemOf_isOf

/-- The parts of a document at which reading breaks off are causes that stand in its text. -/
theorem Node.BreaksOff.standsIn {document : ParsedDocument} {root : Node} {cause : Breakdown}
    (breaks : root.BreaksOff document.isCurrent cause) (parsed : parseTokens (tokensOf text) = .ok document)
    (whole : document.node = some root) (is_of : root.IsOf text document.isCurrent) : cause.StandsIn text := by
  -- The part is a node of the text, which tells why it has the tag that it has.
  cases breaks with
  | unknownBoolean part unknown =>
    cases is_of.part part with
    | scalar _ asked =>
      exact .unknownBoolean parsed whole part ((asked rfl).resolve_left (by simp [unknown])) unknown
  | repeatedPair part repeats =>
    cases is_of.part part with
    | sequence _ named _ => exact .repeatedPair parsed whole part (named rfl) repeats

/-- Whatever a text reads as, its failures are its own, and where reading breaks off the cause stands in it. -/
theorem readText_isOf (text : List Char) : (readText text).IsOf text (Breakdown.StandsIn text) := by
  unfold readText
  split
  · rename_i failure found
    exact .failed (firstUnacceptable?_isOf found)
  -- The tokens are those of the text, and so are the nodes that they make up.
  · have document := parseTokens_gives text
    split
    · rename_i failure failed
      rw [failed] at document
      exact .failed document
    · rename_i parsed read
      rw [read] at document
      split
      · exact .known _
      · rename_i node root
        have whole := document node root
        exact (Node.value_isOf whole node (.self node)).mono fun _ breaks => breaks.standsIn read root whole

end PlanLint
