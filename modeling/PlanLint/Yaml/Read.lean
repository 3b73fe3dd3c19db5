import PlanLint.Yaml.Node.Parser

/-! Reading a whole text. -/

namespace PlanLint

/-- A character that a text may hold. -/
def isAcceptable (c : Char) : Bool :=
  let n := c.toNat
  n == 0x09 || n == 0x0A || n == 0x0D || (0x20 ≤ n && n ≤ 0x7E) || n == 0x85 ||
    (0xA0 ≤ n && n ≤ 0xFFFD) || 0x10000 ≤ n

/-- The problem of the first character that no text may hold, given the number of those before. -/
def firstUnacceptable? (position : Nat) : List Char → Option ReadError
  | [] => none
  | c :: rest =>
    if isAcceptable c then firstUnacceptable? (position + 1) rest
    else some (problemOf (.unacceptable c position))

/-- The value of the only document of a text; a text without a document reads as null. -/
def readText (text : List Char) : Outcome Value :=
  -- The characters are checked before anything is read.
  match firstUnacceptable? 0 text with
  | some failure => .failed failure
  | none =>
    match parseTokens (tokensOf text) with
    | .error failure => .failed failure
    | .ok document =>
      match document.node with
      -- Comments alone make no document.
      | none => .known .null
      | some node => node.value document.isCurrent deepestNesting

end PlanLint
