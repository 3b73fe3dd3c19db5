import PlanLint.Decimal.Nearest
import PlanLint.Json.Value

/-! Reading JSON texts. -/

namespace PlanLint

/-- What is wrong with a JSON text. -/
inductive JsonFault where
  | expectingValue
  | expectingName
  | expectingColon
  | expectingComma
  | unterminatedString
  | controlCharacter
  | badEscape
  | badCodeEscape
  | extraData
  | byteOrderMark
  /-- A whole number has more digits than are read. -/
  | tooManyDigits (count : Nat)
deriving DecidableEq, Repr

/-- The words for a fault. -/
def JsonFault.message : JsonFault → String
  | .expectingValue => "Expecting value"
  | .expectingName => "Expecting property name enclosed in double quotes"
  | .expectingColon => "Expecting ':' delimiter"
  | .expectingComma => "Expecting ',' delimiter"
  | .unterminatedString => "Unterminated string starting at"
  | .controlCharacter => "Invalid control character at"
  | .badEscape => "Invalid \\escape"
  | .badCodeEscape => "Invalid \\uXXXX escape"
  | .extraData => "Extra data"
  | .byteOrderMark => "Unexpected UTF-8 BOM (decode using utf-8-sig)"
  | .tooManyDigits count => "Exceeds the limit (4300 digits) for integer string conversion: value has " ++
      decimalText count ++ " digits; use sys.set_int_max_str_digits() to increase the limit"

/-- A fault, and how many characters were left where it was found. -/
structure JsonStop where
  fault : JsonFault
  left : Nat
deriving DecidableEq, Repr

/-- The blanks of JSON. -/
def isJsonBlank (c : Char) : Bool := c == ' ' || c == '\t' || c == '\n' || c == '\r'

/-- The text behind any blanks. -/
def skipJsonBlanks (text : List Char) : List Char := text.dropWhile isJsonBlank

/-- The number that four hexadecimal digits at the start of a text spell. -/
def fourHex? : List Char → Option Nat
  | a :: b :: c :: d :: _ => do
    let digits ← [a, b, c, d].mapM hexValue?
    return ofDigits 16 digits
  | _ => none

/-- The character that a single-letter escape stands for. -/
def simpleEscape? : Char → Option Char
  | '"' => some '"'
  | '\\' => some '\\'
  | '/' => some '/'
  | 'b' => some '\x08'
  | 'f' => some '\x0c'
  | 'n' => some '\n'
  | 'r' => some '\r'
  | 't' => some '\t'
  | _ => none

/-- A character given by a unit of sixteen bits and, if that is half of a pair, the unit behind it,
with the number of characters that belong to the second. -/
def unitCharacter (first : Nat) (behind : List Char) : Except JsonStop (Char × Nat) :=
  match behind with
  | '\\' :: 'u' :: rest =>
    -- A second half is looked for only if something is left behind its four digits.
    if 0xD800 ≤ first && first < 0xDC00 && !(rest.drop 4).isEmpty then
      match fourHex? rest with
      | none => .error ⟨.badCodeEscape, rest.length + 1⟩
      | some second =>
        if 0xDC00 ≤ second && second < 0xE000 then
          .ok (Char.ofNat (0x10000 + (first - 0xD800) * 1024 + (second - 0xDC00)), 6)
        -- Whatever else follows is read as a character of its own.
        else .ok (Char.ofNat first, 0)
    else .ok (Char.ofNat first, 0)
  | _ => .ok (Char.ofNat first, 0)

/-- The characters of a string up to its closing quote; `opened` is what was left at the opening
one. -/
def readStringFrom (opened : Nat) : Nat → List Char → Except JsonStop (List Char × List Char)
  | 0, _ => .error ⟨.unterminatedString, opened⟩
  | _, [] => .error ⟨.unterminatedString, opened⟩
  | _, ['\\'] => .error ⟨.unterminatedString, opened⟩
  | _, '"' :: rest => .ok ([], rest)
  | fuel + 1, '\\' :: 'u' :: rest =>
    -- Digits that end the text cannot be followed by a quote, so they are not read.
    match (if (rest.drop 4).isEmpty then none else fourHex? rest) with
    | none => .error ⟨.badCodeEscape, rest.length + 1⟩
    | some first => do
      let (c, used) ← unitCharacter first (rest.drop 4)
      let (text, rest) ← readStringFrom opened fuel (rest.drop (4 + used))
      return (c :: text, rest)
  | fuel + 1, '\\' :: e :: rest =>
    match simpleEscape? e with
    | none => .error ⟨.badEscape, rest.length + 2⟩
    | some c => do
      let (text, rest) ← readStringFrom opened fuel rest
      return (c :: text, rest)
  | fuel + 1, c :: rest =>
    if c.toNat ≤ 0x1F then .error ⟨.controlCharacter, rest.length + 1⟩
    else do
      let (text, rest) ← readStringFrom opened fuel rest
      return (c :: text, rest)

/-- A string behind its opening quote. -/
def readString (text : List Char) : Except JsonStop (String × List Char) := do
  let (chars, rest) ← readStringFrom (text.length + 1) (text.length + 1) text
  return (String.ofList chars, rest)

/-- The value of a run of ASCII digits. -/
def asciiNumber (digits : List Char) : Nat := ofDigits 10 (digits.filterMap hexValue?)

/-- The exponent at the start of a text: its value and its length. -/
def leadingExponent : List Char → Option (Int × Nat)
  | mark :: rest =>
    if mark == 'e' || mark == 'E' then
      let (negative, signs, digits) := match rest with
        | '-' :: more => (true, 1, more)
        | '+' :: more => (false, 1, more)
        | more => (false, 0, more)
      match digits.takeWhile isAsciiDigit with
      | [] => none
      | run => some (if negative then -(asciiNumber run : Int) else asciiNumber run, 1 + signs + run.length)
    else none
  | [] => none

/-- The digits behind a decimal point at the start of a text. -/
def leadingFraction : List Char → List Char
  | '.' :: rest => rest.takeWhile isAsciiDigit
  | _ => []

/-- A number behind its sign. A whole number may have up to `limit` digits, if there is a limit. -/
def readNumber (limit : Option Nat) (negative : Bool) (text : List Char) :
    Option (Except JsonStop (Json × List Char)) :=
  -- A nought stands by itself: digits behind it do not belong to the number.
  let whole := match text with
    | '0' :: _ => ['0']
    | _ => text.takeWhile isAsciiDigit
  if whole.isEmpty then none
  else
    let rest := text.drop whole.length
    let fraction := leadingFraction rest
    -- A point without digits behind it does not belong to the number either.
    let rest := if fraction.isEmpty then rest else rest.drop (fraction.length + 1)
    let exponent := leadingExponent rest
    let rest := rest.drop ((exponent.map (·.2)).getD 0)
    -- Only a number without fraction and exponent is an integer, and only those are limited.
    if fraction.isEmpty && exponent.isNone then
      let n : Int := asciiNumber whole
      if limit.any (· < whole.length) then some (.error ⟨.tooManyDigits whole.length, text.length⟩)
      else some (.ok (.int (if negative then -n else n), rest))
    else
      let power := ((exponent.map (·.1)).getD 0) - (fraction.length : Int)
      some (.ok (.float (nearestDecimal negative (asciiNumber (whole ++ fraction)) power), rest))

/-- A word or a number. -/
def readAtom (limit : Option Nat) (text : List Char) : Except JsonStop (Json × List Char) :=
  let missing : JsonStop := ⟨.expectingValue, text.length⟩
  let word (name : String) (value : Json) : Option (Except JsonStop (Json × List Char)) :=
    if name.toList.isPrefixOf text then some (.ok (value, text.drop name.length)) else none
  -- The bits of infinity, as those of a number too large for a double.
  let infinity := nearestBits (Nat.pow 10 400) 1
  let words := [word "null" .null, word "true" (.bool true), word "false" (.bool false),
    word "NaN" (.float (Float.ofBits 0x7FF8000000000000)), word "Infinity" (.float (Float.ofBits infinity)),
    word "-Infinity" (.float (Float.ofBits (infinity ||| 0x8000000000000000)))]
  match words.findSome? id with
  | some read => read
  | none =>
    (match text with
      | '-' :: rest => readNumber limit true rest
      | _ => readNumber limit false text).getD (.error missing)

mutual
/-- A value at the start of a text. -/
def readJson (limit : Option Nat) : Nat → List Char → Except JsonStop (Json × List Char)
  | 0, text => .error ⟨.expectingValue, text.length⟩
  | fuel + 1, text =>
    match text with
    | '"' :: rest => do
      let (s, rest) ← readString rest
      return (.str s, rest)
    | '[' :: rest =>
      match skipJsonBlanks rest with
      | ']' :: rest => .ok (.arr [], rest)
      | first => do
        let (items, rest) ← readItems limit fuel first
        return (.arr items, rest)
    | '{' :: rest =>
      match skipJsonBlanks rest with
      | '}' :: rest => .ok (.obj [], rest)
      | first => do
        let (members, rest) ← readMembers limit fuel [] first
        return (.obj members, rest)
    | _ => readAtom limit text

/-- The items of an array, up to its closing bracket. -/
def readItems (limit : Option Nat) : Nat → List Char → Except JsonStop (List Json × List Char)
  | 0, text => .error ⟨.expectingValue, text.length⟩
  | fuel + 1, text => do
    let (item, rest) ← readJson limit fuel text
    match skipJsonBlanks rest with
    | ']' :: rest => return ([item], rest)
    | ',' :: rest =>
      -- An item has to follow a comma, so that a bracket right behind it is a fault.
      let (items, rest) ← readItems limit fuel (skipJsonBlanks rest)
      return (item :: items, rest)
    | rest => throw ⟨.expectingComma, rest.length⟩

/-- The members of an object, up to its closing brace. -/
def readMembers (limit : Option Nat) :
    Nat → List (String × Json) → List Char → Except JsonStop (List (String × Json) × List Char)
  | 0, _, text => .error ⟨.expectingName, text.length⟩
  | fuel + 1, members, text =>
    match text with
    | '"' :: rest => do
      let (name, rest) ← readString rest
      match skipJsonBlanks rest with
      | ':' :: rest =>
        let (value, rest) ← readJson limit fuel (skipJsonBlanks rest)
        -- The last value for a name counts.
        let members := putMember members name value
        match skipJsonBlanks rest with
        | '}' :: rest => return (members, rest)
        | ',' :: rest => readMembers limit fuel members (skipJsonBlanks rest)
        | rest => throw ⟨.expectingComma, rest.length⟩
      | rest => throw ⟨.expectingColon, rest.length⟩
    | _ => .error ⟨.expectingName, text.length⟩
end

/-- A fault and the number of characters before it. -/
structure JsonError where
  fault : JsonFault
  position : Nat
deriving DecidableEq, Repr

/-- The fault with its line, its column and its place in the text. -/
def JsonError.message (e : JsonError) (text : List Char) : String :=
  match e.fault with
  -- This fault is told without its place.
  | .tooManyDigits _ => e.fault.message
  | fault =>
    let before := text.take e.position
    let line := before.count '\n' + 1
    let column := (before.reverse.takeWhile (· != '\n')).length + 1
    fault.message ++ ": line " ++ decimalText line ++ " column " ++ decimalText column ++
      " (char " ++ decimalText e.position ++ ")"

/-- The value that a whole text spells, with nothing but blanks around it. -/
def Json.parse (limit : Option Nat) (text : List Char) : Except JsonError Json :=
  match text with
  -- A mark of the byte order is told apart from other text that is no value.
  | '\ufeff' :: _ => .error ⟨.byteOrderMark, 0⟩
  | _ =>
    let start := skipJsonBlanks text
    match readJson limit (text.length + 1) start with
    | .error stop => .error ⟨stop.fault, text.length - stop.left⟩
    | .ok (value, rest) =>
      match skipJsonBlanks rest with
      | [] => .ok value
      | rest => .error ⟨.extraData, text.length - rest.length⟩

end PlanLint
