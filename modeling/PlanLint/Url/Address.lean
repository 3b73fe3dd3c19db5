import PlanLint.Text.Digit
import PlanLint.Text.Lines

/-! Numeric hosts: addresses of four and of sixteen bytes. -/

namespace PlanLint

/-- A number of a dotted address: decimal, octal behind a zero, hexadecimal behind `0x`. -/
def dottedNumber? (text : List Char) : Option Nat :=
  let (base, digits) := match text with
    | '0' :: 'x' :: digits => (16, digits)
    | '0' :: 'X' :: digits => (16, digits)
    | '0' :: d :: digits => (8, d :: digits)
    | digits => (10, digits)
  -- A mark without digits behind it is the number nought, but an empty text is no number.
  if text.isEmpty then none
  else do
    let values ← digits.mapM hexValue?
    if values.all (· < base) then some (ofDigits base values) else none

/-- The labels of a host without an empty one at its end. -/
def hostLabels (host : List Char) : List (List Char) :=
  let labels := piecesBetween '.' host
  if labels.length > 1 && labels.getLast? == some [] then labels.dropLast else labels

/-- A host whose last label is a number has to be a dotted address. -/
def endsInNumber (host : List Char) : Bool :=
  match (hostLabels host).getLast? with
  | none => false
  | some label => (!label.isEmpty && label.all isAsciiDigit) || (dottedNumber? label).isSome

/-- A dotted address: at most four numbers, the last of which fills the bytes that are left. -/
def isDottedAddress (host : List Char) : Bool :=
  let labels := hostLabels host
  labels.length ≤ 4 &&
    match labels.mapM dottedNumber? with
    | none => false
    | some numbers =>
      match numbers.getLast? with
      | none => false
      | some last => last < Nat.pow 256 (5 - numbers.length) && numbers.dropLast.all (· ≤ 255)

/-- A byte in decimal, without needless zeros. -/
def isDecimalByte (text : List Char) : Bool :=
  !text.isEmpty && text.all isAsciiDigit && (text.length == 1 || text.head? != some '0') &&
    ofDigits 10 (text.filterMap hexValue?) ≤ 255

/-- Four bytes in decimal with dots between them. -/
def isDottedQuad (text : List Char) : Bool :=
  let bytes := piecesBetween '.' text
  bytes.length == 4 && bytes.all isDecimalByte

/-- One piece of a long address: up to four hexadecimal digits. -/
def isHexPiece (text : List Char) : Bool :=
  !text.isEmpty && text.length ≤ 4 && text.all fun c => (hexValue? c).isSome

/-- The number of two-byte units that a piece stands for; only the last may be a dotted quad. -/
def pieceUnits? (last : Bool) (text : List Char) : Option Nat :=
  if isHexPiece text then some 1
  else if last && isDottedQuad text then some 2
  else none

/-- The units of all pieces. -/
def unitsOf? : List (List Char) → Option Nat
  | [] => some 0
  | piece :: pieces => do
    let first ← pieceUnits? pieces.isEmpty piece
    let rest ← unitsOf? pieces
    return first + rest

/-- An address of eight units; one double colon may stand for those that are left out. -/
def isLongAddress (text : List Char) : Bool :=
  let pieces := piecesBetween ':' text
  let opensDouble := [':', ':'].isPrefixOf text
  let closesDouble := [':', ':'].isPrefixOf text.reverse
  -- A single colon at an end leaves a piece empty that nothing stands for.
  if (text.head? == some ':' && !opensDouble) || (text.getLast? == some ':' && !closesDouble) then false
  else
    let pieces := if opensDouble then pieces.drop 1 else pieces
    let pieces := if closesDouble then pieces.dropLast else pieces
    match unitsOf? (pieces.filter (!·.isEmpty)), (pieces.filter (·.isEmpty)).length with
    | some units, 0 => units == 8
    -- One empty piece is left where the double colon stands.
    | some units, 1 => units ≤ 7 && text.length ≥ 2
    | _, _ => false

end PlanLint
