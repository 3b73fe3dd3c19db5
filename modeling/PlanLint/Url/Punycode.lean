import PlanLint.Text.Digit

/-! The ASCII form of labels in other scripts. -/

namespace PlanLint

/-- The value of a base-36 digit: letters first, then the decimal digits. -/
def punycodeDigit? (c : Char) : Option Nat :=
  if 'a' ≤ c && c ≤ 'z' then some (c.toNat - 'a'.toNat)
  else if 'A' ≤ c && c ≤ 'Z' then some (c.toNat - 'A'.toNat)
  else if '0' ≤ c && c ≤ '9' then some (c.toNat - '0'.toNat + 26)
  else none

/-- Divides a delta down until it is small, counting the steps. -/
def damp (fuel delta k : Nat) : Nat :=
  match fuel with
  | 0 => k
  | fuel + 1 => if delta > 455 then damp fuel (delta / 35) (k + 36) else k + 36 * delta / (delta + 38)

/-- The bias for the next delta. -/
def adaptBias (delta points : Nat) (first : Bool) : Nat :=
  -- The first delta tends to be large, since it starts at the end of ASCII.
  let delta := if first then delta / 700 else delta / 2
  let delta := delta + delta / points
  damp delta delta 0

/-- One delta in variable-length digits, with the digits behind it. -/
def punycodeDelta? (bias : Nat) : List Char → Nat → Nat → Nat → Option (Nat × List Char)
  | [], _, _, _ => none
  | c :: rest, k, weight, total => do
    let digit ← punycodeDigit? c
    let total := total + digit * weight
    -- The numbers of the format have thirty-two bits.
    if total ≥ Nat.pow 2 32 then none
    else
      let threshold := if k ≤ bias then 1 else if k ≥ bias + 26 then 26 else k - bias
      -- A digit below its threshold is the last one of the delta.
      if digit < threshold then some (total, rest)
      else punycodeDelta? bias rest (k + 36) (weight * (36 - threshold)) total

/-- Where the next code point goes, and how its delta is read. -/
structure InsertState where
  code : Nat
  index : Nat
  bias : Nat
  first : Bool

/-- Inserts the code points that the deltas describe. -/
def punycodeInsert? : Nat → InsertState → List Char → List Char → Option (List Char)
  | _, _, [], output => some output
  | 0, _, _ :: _, _ => none
  | fuel + 1, state, c :: rest, output => do
    let (delta, rest) ← punycodeDelta? state.bias (c :: rest) 36 1 0
    let points := output.length + 1
    -- A delta counts through all places, and beyond the last one on to the next code point.
    let place := (state.index + delta) % points
    let code := state.code + (state.index + delta) / points
    if code.isValidChar then
      punycodeInsert? fuel ⟨code, place + 1, adaptBias delta points state.first, false⟩ rest
        (output.take place ++ Char.ofNat code :: output.drop place)
    else none

/-- The characters before the last hyphen, and those behind it. -/
def splitLastHyphen (text : List Char) : List Char × List Char :=
  let tail := text.reverse.takeWhile (· != '-')
  if tail.length == text.length then ([], text)
  else ((text.reverse.drop (tail.length + 1)).reverse, tail.reverse)

/-- The label that an ASCII form stands for. -/
def punycodeDecode? (text : List Char) : Option (List Char) :=
  let (plain, deltas) := splitLastHyphen text
  punycodeInsert? deltas.length ⟨128, 0, 72, true⟩ deltas plain

end PlanLint
