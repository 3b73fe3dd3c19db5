import PlanLint.Yaml.Problem

/-! Bytes written in base 64. -/

namespace PlanLint

/-- The value of a character of base 64. -/
def base64Value? (c : Char) : Option Nat :=
  if 'A' ≤ c && c ≤ 'Z' then some (c.toNat - 'A'.toNat)
  else if 'a' ≤ c && c ≤ 'z' then some (c.toNat - 'a'.toNat + 26)
  else if '0' ≤ c && c ≤ '9' then some (c.toNat - '0'.toNat + 52)
  else if c == '+' then some 62
  else if c == '/' then some 63
  else none

/-- The values of the characters of a text up to its padding; other characters do not count. Padding
ends the text when it fills up a group: `group` tells the place in the current one, and `padded` how
much padding has been read in it. -/
def base64Values (group padded : Nat) : List Char → List Nat × Bool
  | [] => ([], false)
  | c :: rest =>
    if c == '=' then
      -- Padding counts once two characters of a group are there.
      if group ≥ 2 && group + padded + 1 ≥ 4 then ([], true)
      else base64Values group (if group ≥ 2 then padded + 1 else padded) rest
    else match base64Value? c with
      | none => base64Values group padded rest
      | some value =>
        let (values, closed) := base64Values ((group + 1) % 4) 0 rest
        (value :: values, closed)

/-- The bytes of groups of four values; a last group gives one byte less than it has values. -/
def base64Bytes : List Nat → List UInt8
  | a :: b :: c :: d :: rest =>
    UInt8.ofNat (a * 4 + b / 16) :: UInt8.ofNat (b * 16 + c / 4) :: UInt8.ofNat (c * 64 + d) :: base64Bytes rest
  | [a, b, c] => [UInt8.ofNat (a * 4 + b / 16), UInt8.ofNat (b * 16 + c / 4)]
  | [a, b] => [UInt8.ofNat (a * 4 + b / 16)]
  | _ => []

/-- The bytes that a text spells in base 64. -/
def decodeBase64 (text : List Char) : Except Base64Fault (List UInt8) :=
  -- A text that is not in ASCII is refused before it is read.
  let isForeign := fun c : Char => c.toNat ≥ 0x80
  let before := (text.takeWhile fun c => !isForeign c).length
  match text.drop before with
  | c :: rest => .error (.notAscii c before (before + (rest.takeWhile isForeign).length))
  | [] =>
    let (values, closed) := base64Values 0 0 text
    if values.length % 4 == 0 || closed then .ok (base64Bytes values)
    -- One value alone makes no byte.
    else if values.length % 4 == 1 then .error (.lonelyCharacter values.length)
    else .error .padding

end PlanLint
