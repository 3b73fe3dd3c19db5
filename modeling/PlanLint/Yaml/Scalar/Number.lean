import PlanLint.Decimal.Nearest
import PlanLint.Text.Blank
import PlanLint.Text.LetterCase
import PlanLint.Text.Lines
import PlanLint.Yaml.Problem

/-! Integers and floating-point numbers, as scalars spell them. -/

namespace PlanLint

/-- The value of a digit in a base; decimal digits of any script count. -/
def digitIn? (base : Nat) (c : Char) : Option Nat :=
  -- A letter is a digit where the base has so many.
  ((decimalValue? c).or (hexValue? c)).filter (· < base)

/-- The digits behind the mark of a base, if the text starts with that mark. -/
def withoutBaseMark (base : Nat) (text : List Char) : List Char :=
  let mark := if base == 2 then 'b' else if base == 8 then 'o' else if base == 16 then 'x' else '0'
  match text with
  -- The mark may be repeated in the text, small or capital, if it is that of the base.
  | '0' :: c :: rest => if base != 10 && smallLetter c == mark then rest else text
  | _ => text

/-- The integer that a whole text spells in a base, blanks around it apart. A decimal number may
have no more digits than are ever read. -/
def readIntegerIn (base : Nat) (text : List Char) : Except ReadError Int :=
  let (negative, digits) := splitSign (trim text)
  let digits := withoutBaseMark base digits
  match digits.mapM (digitIn? base) with
  | some (first :: rest) =>
    -- Other bases are read whatever their length is.
    if base == 10 && digits.length > digitLimit then .error (problemOf (.tooManyDigits digits.length))
    else
      let n : Int := ofDigits base (first :: rest)
      .ok (if negative then -n else n)
  | _ => .error (problemOf (.badInteger base text))

/-- A number whose pieces count sixty of the next one each. -/
def readSexagesimal (pieces : List (List Char)) : Except ReadError Int := do
  let parts ← pieces.mapM (readIntegerIn 10)
  return parts.foldl (fun total part => total * 60 + part) 0

/-- The integer that a scalar spells. Underscores only group digits; a leading zero marks an octal
number in the first version of the language, and colons separate minutes and seconds there. -/
def readInteger (isCurrent : Bool) (text : List Char) : Except ReadError Int := do
  let (negative, digits) := splitSign (text.filter (· != '_'))
  let magnitude ← match digits with
    | ['0'] => pure 0
    | '0' :: 'b' :: rest => readIntegerIn 2 rest
    | '0' :: 'x' :: rest => readIntegerIn 16 rest
    | '0' :: 'o' :: rest => readIntegerIn 8 rest
    -- A leading nought makes the number octal in the first version only.
    | '0' :: rest => if isCurrent then readIntegerIn 10 ('0' :: rest) else readIntegerIn 8 ('0' :: rest)
    | digits =>
      if !isCurrent && digits.contains ':' then readSexagesimal (piecesBetween ':' digits)
      else readIntegerIn 10 digits
  return if negative then -magnitude else magnitude

/-- The positive infinity. -/
def infinity : Float := Float.ofBits 0x7FF0000000000000

/-- The result of an operation that has none. -/
def notANumber : Float := Float.ofBits 0x7FF8000000000000

/-- The exponent that a text consists of, if it is one; no text at all is the exponent zero. -/
def exponent? (text : List Char) : Option Int :=
  match text with
  | [] => some 0
  | mark :: rest =>
    if mark != 'e' && mark != 'E' then none
    else
      let (negative, digits) := splitSign rest
      match digits.mapM (digitIn? 10) with
      | some (first :: more) =>
        let n : Int := ofDigits 10 (first :: more)
        some (if negative then -n else n)
      | _ => none

/-- The decimal number that a text without a sign spells. -/
def decimalNumber? (negative : Bool) (text : List Char) : Option Float := do
  let whole := text.takeWhile isDecimalDigit
  let rest := text.drop whole.length
  let (fraction, rest) := match rest with
    | '.' :: rest => (rest.takeWhile isDecimalDigit, rest.dropWhile isDecimalDigit)
    | rest => ([], rest)
  -- A point alone is no number.
  if whole.isEmpty && fraction.isEmpty then none
  let exponent ← exponent? rest
  let digits := (whole ++ fraction).filterMap decimalValue?
  return nearestDecimal negative (ofDigits 10 digits) (exponent - (fraction.length : Int))

/-- The number that a whole text spells, blanks around it apart. -/
def readFloatText (text : List Char) : Except ReadError Float :=
  let (negative, number) := splitSign (trim text)
  let word := smallLetters number
  let signed (x : Float) : Except ReadError Float := .ok (if negative then -x else x)
  if word == "inf".toList || word == "infinity".toList then signed infinity
  else if word == "nan".toList then signed notANumber
  else match decimalNumber? negative number with
    | some x => .ok x
    | none => .error (problemOf (.badFloat text))

/-- Where a scalar has the letter of an exponent, it must have it once. -/
def checkExponent (text : List Char) : Except ReadError Unit :=
  let small := (piecesBetween 'e' text).length
  let capital := (piecesBetween 'E' text).length
  -- Two pieces are around one letter.
  if small == 2 || capital == 2 then .ok () else .error (problemOf (.badExponent capital))

/-- The floating-point number that a scalar spells. -/
def readFloat (isCurrent : Bool) (text : List Char) : Except ReadError Float := do
  let (negative, number) := splitSign (smallLetters (text.filter (· != '_')))
  let x ←
    if number == ".inf".toList then pure infinity
    else if number == ".nan".toList then return notANumber
    else if !isCurrent && number.contains ':' then do
      let parts ← (piecesBetween ':' number).mapM readFloatText
      -- The last piece counts once, each one before it sixty times as much.
      let (total, _) := parts.reverse.foldl (fun (total, unit) part => (total + part * unit, unit * 60.0))
        ((0.0 : Float), (1.0 : Float))
      pure total
    else do
      if number.contains 'e' then checkExponent text
      readFloatText number
  return if negative then -x else x

end PlanLint
