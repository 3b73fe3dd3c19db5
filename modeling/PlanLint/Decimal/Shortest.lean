/-! The shortest decimal that reads back as a given double. -/

namespace PlanLint

/-- The exact value `mantissa · 2 ^ exponent` of a finite double, sign apart. -/
structure Binary where
  mantissa : Nat
  exponent : Int
  /-- Whether the next double below is only half as far away as the next above. -/
  narrowBelow : Bool

/-- The value held by the exponent and significand fields of a double. -/
def Binary.ofBits (bits : UInt64) : Binary :=
  let significand : Nat := bits.toNat % Nat.pow 2 52
  let field : Nat := bits.toNat / Nat.pow 2 52 % 2048
  -- The least field stands for subnormal numbers, which lack the leading bit.
  if field == 0 then ⟨significand, -1074, false⟩
  else ⟨significand + Nat.pow 2 52, (field : Int) - 1075, significand == 0 && field > 1⟩

/-- The value as a numerator and a denominator, scaled so that half the gap to either neighbour is
a whole numerator. -/
def Binary.fraction (b : Binary) : Nat × Nat :=
  -- A quarter of the unit in the last place is the finest step needed.
  if b.exponent ≥ 2 then (b.mantissa * Nat.pow 2 b.exponent.toNat, 1)
  else (4 * b.mantissa, Nat.pow 2 (2 - b.exponent).toNat)

/-- Half the gaps below and above, as numerators over the denominator of `fraction`. -/
def Binary.halfGaps (b : Binary) : Nat × Nat :=
  let above := if b.exponent ≥ 2 then Nat.pow 2 (b.exponent.toNat - 1) else 2
  (if b.narrowBelow then above / 2 else above, above)

/-- Whether `candidate · 10 ^ power` reads back as the double: it lies between the midpoints to the
neighbours, and on one only if the significand is even. -/
def Binary.readsBack (b : Binary) (candidate : Nat) (power : Int) : Bool :=
  let (num, den) := b.fraction
  let (below, above) := b.halfGaps
  -- Both sides are brought to one denominator.
  let scaled := if power ≥ 0 then candidate * Nat.pow 10 power.toNat * den else candidate * den
  let unit := if power ≥ 0 then 1 else Nat.pow 10 (-power).toNat
  let low := (num - below) * unit
  let high := (num + above) * unit
  if b.mantissa % 2 == 0 then low ≤ scaled && scaled ≤ high else low < scaled && scaled < high

/-- Twice the distance of `candidate · 10 ^ power` from the double, over a common denominator. -/
def Binary.distance (b : Binary) (candidate : Nat) (power : Int) : Nat :=
  let (num, den) := b.fraction
  let scaled := if power ≥ 0 then candidate * Nat.pow 10 power.toNat * den else candidate * den
  let unit := if power ≥ 0 then 1 else Nat.pow 10 (-power).toNat
  if scaled ≥ num * unit then scaled - num * unit else num * unit - scaled

/-- The power of ten of the leading digit: `10 ^ p ≤ value < 10 ^ (p + 1)`. -/
def Binary.leadingPower (b : Binary) : Int :=
  let (num, den) := b.fraction
  if num ≥ den then ((Nat.toDigits 10 (num / den)).length : Int) - 1
  else
    -- The quotient of the inverse has as many digits as there are zeros to skip.
    -((Nat.toDigits 10 ((den - 1) / num)).length : Int)

/-- The neighbours of the double on the grid of multiples of `10 ^ power`, the one below first. -/
def Binary.neighbours (b : Binary) (power : Int) : Nat × Nat :=
  let (num, den) := b.fraction
  let q := if power ≥ 0 then num / (den * Nat.pow 10 power.toNat) else num * Nat.pow 10 (-power).toNat / den
  (q, q + 1)

/-- The digits and power of a decimal with a given number of digits that reads back, the nearer of
two, the even one of a tie. -/
def Binary.withDigits? (b : Binary) (count : Nat) : Option (Nat × Int) :=
  let power := b.leadingPower - (count : Int) + 1
  let (lower, upper) := b.neighbours power
  match b.readsBack lower power, b.readsBack upper power with
  | true, true =>
    let down := b.distance lower power
    let up := b.distance upper power
    if down < up then some (lower, power)
    else if up < down then some (upper, power)
    else some (if lower % 2 == 0 then (lower, power) else (upper, power))
  | true, false => some (lower, power)
  | false, true => some (upper, power)
  | false, false => none

/-- The fewest digits, as a natural number and a power of ten, that read back as the double;
seventeen always do. -/
def Binary.shortest (b : Binary) : Nat × Int :=
  if b.mantissa == 0 then (0, 0)
  else ((List.range 17).findSome? fun n => b.withDigits? (n + 1)).getD (b.mantissa, b.exponent)

end PlanLint
