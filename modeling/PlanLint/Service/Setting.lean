import PlanLint.Decimal.Shortest
import PlanLint.Json.Value
import PlanLint.Text.LetterCase
import PlanLint.Text.Lines

/-! Settings: booleans and integers, which may be given in other forms than their own. -/

namespace PlanLint

/-- What is wrong with a setting. -/
inductive SettingFault where
  | notBoolean
  | unknownBoolean
  | notInteger
  | unreadableInteger
  | oversizedInteger
  | fractional
  | infinite
  | notPositive
  | notObject
deriving DecidableEq, Repr

/-- The short name of a fault. -/
def SettingFault.kind : SettingFault → String
  | .notBoolean => "bool_type"
  | .unknownBoolean => "bool_parsing"
  | .notInteger => "int_type"
  | .unreadableInteger => "int_parsing"
  | .oversizedInteger => "int_parsing_size"
  | .fractional => "int_from_float"
  | .infinite => "finite_number"
  | .notPositive => "greater_than"
  | .notObject => "model_type"

/-- The words for a fault. -/
def SettingFault.message : SettingFault → String
  | .notBoolean => "Input should be a valid boolean"
  | .unknownBoolean => "Input should be a valid boolean, unable to interpret input"
  | .notInteger => "Input should be a valid integer"
  | .unreadableInteger => "Input should be a valid integer, unable to parse string as an integer"
  | .oversizedInteger => "Unable to parse input string as an integer, exceeded maximum size"
  | .fractional => "Input should be a valid integer, got a number with a fractional part"
  | .infinite => "Input should be a finite number"
  | .notPositive => "Input should be greater than 0"
  | .notObject => "Input should be a valid dictionary or instance of ValidatorOptions"

/-- The integer that a finite number is, if it has no fraction. -/
def wholeNumber? (x : Float) : Option Int :=
  let bits := x.toBits
  let value := Binary.ofBits bits
  let sign : Int := if bits ≥ 0x8000000000000000 then -1 else 1
  if !x.isFinite then none
  else if value.exponent ≥ 0 then some (sign * (value.mantissa * Nat.pow 2 value.exponent.toNat : Nat))
  else
    -- The bits below the point have to be noughts.
    let unit := Nat.pow 2 (-value.exponent).toNat
    if value.mantissa % unit == 0 then some (sign * (value.mantissa / unit : Nat)) else none

/-- An integer of sixty-four bits, or the number behind the last one, which counts as the last. -/
def isMachineInteger (n : Int) : Bool := -0x8000000000000000 ≤ n && n ≤ 0x8000000000000000

/-- The words for truth. -/
def trueWords : List String := ["1", "on", "t", "true", "y", "yes"]

/-- The words for falsehood. -/
def falseWords : List String := ["0", "off", "f", "false", "n", "no"]

/-- An integer that stands for a truth value. -/
def booleanOfInteger (n : Int) : Except SettingFault Bool :=
  if n == 0 then .ok false
  else if n == 1 then .ok true
  else .error (if isMachineInteger n then .unknownBoolean else .notBoolean)

/-- A boolean, or a number or word that stands for one. -/
def booleanSetting : Json → Except SettingFault Bool
  | .bool b => .ok b
  | .int n => booleanOfInteger n
  | .float x =>
    match wholeNumber? x with
    | some n => booleanOfInteger n
    | none => .error .notBoolean
  | .str s =>
    -- Words count in any letters, but not with blanks around them.
    let word := String.ofList (s.toList.map Char.toLower)
    if trueWords.contains word then .ok true
    else if falseWords.contains word then .ok false
    else .error .unknownBoolean
  | _ => .error .notBoolean

/-- The characters that may stand around a number. -/
def isWhiteSpace (c : Char) : Bool :=
  let n := c.toNat
  (9 ≤ n && n ≤ 13) || n == 0x20 || n == 0x85 || n == 0xA0 || n == 0x1680 ||
    (0x2000 ≤ n && n ≤ 0x200A) || n == 0x2028 || n == 0x2029 || n == 0x202F || n == 0x205F || n == 0x3000

/-- A text without white space at its ends. -/
def trimWhiteSpace (text : List Char) : List Char :=
  ((text.dropWhile isWhiteSpace).reverse.dropWhile isWhiteSpace).reverse

/-- A number without a fraction that consists of zeros. -/
def withoutZeroFraction (text : List Char) : List Char :=
  let whole := text.takeWhile (· != '.')
  if (text.drop (whole.length + 1)).all (· == '0') then whole else text

/-- Digits with single underscores between them. -/
def groupedNumber? (text : List Char) : Option Nat :=
  let pieces := piecesBetween '_' text
  if pieces.all fun piece => !piece.isEmpty && piece.all isAsciiDigit then
    some (ofDigits 10 (pieces.flatten.filterMap hexValue?))
  else none

/-- A number without its sign; among zeros at its start any underscores may stand. -/
def unsignedNumber? (text : List Char) : Option Nat :=
  if text.head? == some '0' then
    match text.dropWhile fun c => c == '0' || c == '_' with
    -- Noughts alone are nought, unless an underscore ends them.
    | [] => if text.getLast? == some '0' then some 0 else none
    | digits => groupedNumber? digits
  else groupedNumber? text

/-- The most characters that a number may have. -/
def longestNumber : Nat := 4300

/-- The integer that a text spells. -/
def integerOfText (text : List Char) : Except SettingFault Int :=
  let number := trimWhiteSpace text
  let (negative, digits) := splitSign number
  -- The sign and the underscores count as well.
  if number.length > longestNumber then .error .oversizedInteger
  else match unsignedNumber? (withoutZeroFraction digits) with
    | some n => .ok (if negative then -(n : Int) else n)
    | none => .error .unreadableInteger

/-- An integer, or something else that is one. -/
def integerSetting : Json → Except SettingFault Int
  | .bool b => .ok (if b then 1 else 0)
  | .int n => .ok n
  | .float x =>
    if !x.isFinite then .error .infinite
    else match wholeNumber? x with
      | none => .error .fractional
      | some n => if isMachineInteger n then .ok (min n 0x7FFFFFFFFFFFFFFF) else .error .oversizedInteger
  | .str s => integerOfText s.toList
  | _ => .error .notInteger

end PlanLint
