import PlanLint.Text.Digit
import PlanLint.Decimal.Shortest

/-! The written form of floating-point numbers. -/

namespace PlanLint

/-- How a number is written around its digits. -/
structure FloatNotation where
  /-- The decimal exponents that are written out in full. -/
  leastPositional : Int
  mostPositional : Int
  /-- The fewest digits of a written exponent. -/
  exponentDigits : Nat
  infinity : String
  undefined : String

/-- Numbers from a ten-thousandth up to ten quadrillion are written out, with `.0` if they are
whole; others take an exponent with its sign and at least two digits. -/
def plainNotation : FloatNotation := ⟨-4, 15, 2, "inf", "nan"⟩

/-- A number written out in full: `digits · 10 ^ power`, with a fraction of at least one digit. -/
def positionalText (digits : List Char) (power : Int) : String :=
  if power ≥ 0 then String.ofList (digits ++ List.replicate power.toNat '0') ++ ".0"
  else
    let places := (-power).toNat
    -- The point stands among the digits, or noughts are put in front of them.
    if digits.length > places then
      String.ofList (digits.take (digits.length - places) ++ '.' :: digits.drop (digits.length - places))
    else "0." ++ String.ofList (List.replicate (places - digits.length) '0' ++ digits)

/-- A number with an exponent: the first digit, the others as a fraction, the exponent. -/
def scientificText (n : FloatNotation) (digits : List Char) (exponent : Int) : String :=
  let fraction := match digits.drop 1 with
    | [] => ""
    | more => "." ++ String.ofList more
  let sign := if exponent < 0 then "-" else "+"
  String.ofList (digits.take 1) ++ fraction ++ "e" ++ sign ++ paddedText n.exponentDigits exponent.natAbs

/-- The digits without zeros at the end, and the power of ten they are then counted in. -/
def withoutTrailingZeros (digits : List Char) (power : Int) : List Char × Int :=
  let kept := (digits.reverse.dropWhile (· == '0')).reverse
  (kept, power + (digits.length - kept.length : Nat))

/-- A floating-point number in the fewest digits that read back. -/
def FloatNotation.text (n : FloatNotation) (x : Float) : String :=
  let bits := x.toBits
  let sign := if bits ≥ 0x8000000000000000 then "-" else ""
  if x.isNaN then n.undefined
  else if x.isInf then sign ++ n.infinity
  else
    let (mantissa, power) := (Binary.ofBits bits).shortest
    if mantissa == 0 then sign ++ "0.0"
    else
      let (digits, power) := withoutTrailingZeros (Nat.toDigits 10 mantissa) power
      -- The exponent of the first digit decides how the number is written.
      let exponent : Int := power + (digits.length : Int) - 1
      if n.leastPositional ≤ exponent && exponent ≤ n.mostPositional then sign ++ positionalText digits power
      else sign ++ scientificText n digits exponent

end PlanLint
