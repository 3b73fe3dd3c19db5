/-! The double nearest to a fraction of natural numbers. -/

namespace PlanLint

/-- The quotient rounded to the nearest integer, a tie to the even one. -/
def roundDivEven (num den : Nat) : Nat :=
  let q := num / den
  let r := num % den
  if 2 * r < den then q else if 2 * r > den then q + 1 else q + q % 2

/-- The exponent of two at which the fraction has a significand of 53 bits, never below the
smallest one. -/
def binaryExponent (num den : Nat) : Int :=
  let guess : Int := (num.log2 : Int) - (den.log2 : Int) - 52
  -- The guess is exact or one too large.
  let fits := if guess ≥ 0 then num ≥ den * Nat.pow 2 (52 + guess.toNat)
    else num * Nat.pow 2 (-guess).toNat ≥ den * Nat.pow 2 52
  max (if fits then guess else guess - 1) (-1074)

/-- The bits of the double nearest to `num / den`, a tie to the even significand; too large a
fraction gives infinity. -/
def nearestBits (num den : Nat) : UInt64 :=
  if num == 0 || den == 0 then 0
  else
    let e := binaryExponent num den
    let m := if e ≥ 0 then roundDivEven num (den * Nat.pow 2 e.toNat)
      else roundDivEven (num * Nat.pow 2 (-e).toNat) den
    -- Below 2^52 the number is subnormal and its bits are the significand itself.
    if m < Nat.pow 2 52 then m.toUInt64
    else
      -- Rounding up to 2^53 carries into the exponent field by plain addition.
      let bits := (e + 1074).toNat * Nat.pow 2 52 + m
      if bits ≥ 2047 * Nat.pow 2 52 then 0x7FF0000000000000 else bits.toUInt64

/-- The double nearest to `± mantissa · 10 ^ exponent`. -/
def nearestDecimal (negative : Bool) (mantissa : Nat) (exponent : Int) : Float :=
  let size : Int := ((Nat.toDigits 10 mantissa).length : Int) + exponent
  let magnitude : UInt64 :=
    if mantissa == 0 then 0
    -- Far outside the range no power of ten has to be computed.
    else if size > 400 then 0x7FF0000000000000
    else if size < -400 then 0
    else if exponent ≥ 0 then nearestBits (mantissa * Nat.pow 10 exponent.toNat) 1
    else nearestBits mantissa (Nat.pow 10 (-exponent).toNat)
  Float.ofBits (if negative then magnitude ||| 0x8000000000000000 else magnitude)

end PlanLint
