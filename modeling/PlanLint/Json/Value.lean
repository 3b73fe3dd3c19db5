import PlanLint.Decimal.Notation
import PlanLint.Text.Digit

/-! JSON values and their text. -/

namespace PlanLint

/-- A JSON value; whole numbers are kept apart from those written with a fraction or an exponent. -/
inductive Json where
  | null
  | bool (b : Bool)
  | int (n : Int)
  | float (x : Float)
  | str (s : String)
  | arr (items : List Json)
  | obj (members : List (String × Json))
deriving Inhabited

/-- Members with one more: a name that is there already keeps its place and takes the new value. -/
def putMember {α : Type} (members : List (String × α)) (name : String) (value : α) : List (String × α) :=
  if members.any fun member => member.1 == name then
    members.map fun member => if member.1 == name then (name, value) else member
  else members ++ [(name, value)]

/-- The member of an object under a name. -/
def Json.get? : Json → String → Option Json
  | .obj members, name => (members.find? fun member => member.1 == name).map (·.2)
  | _, _ => none

/-- A character inside the quotes of a JSON string, in ASCII. -/
def jsonCharacter (c : Char) : String :=
  let n := c.toNat
  if c == '"' then "\\\""
  else if c == '\\' then "\\\\"
  else if 0x20 ≤ n && n < 0x7F then c.toString
  else if n < 0x10000 then "\\u" ++ hexText 4 n
  -- Beyond the first plane a character takes two units of sixteen bits.
  else "\\u" ++ hexText 4 (0xD800 + (n - 0x10000) / 1024) ++ "\\u" ++ hexText 4 (0xDC00 + (n - 0x10000) % 1024)

/-- A JSON string. -/
def jsonString (s : String) : String := "\"" ++ String.join (s.toList.map jsonCharacter) ++ "\""

/-- Floating-point numbers as JSON spells them. -/
def jsonNotation : FloatNotation := { plainNotation with infinity := "Infinity", undefined := "NaN" }

mutual
/-- The text of a JSON value, without blanks. -/
def Json.text : Json → String
  | .null => "null"
  | .bool b => if b then "true" else "false"
  | .int n => signedText n
  | .float x => jsonNotation.text x
  | .str s => jsonString s
  | .arr items => "[" ++ ",".intercalate (itemTexts items) ++ "]"
  | .obj members => "\x7b" ++ ",".intercalate (memberTexts members) ++ "\x7d"

/-- The texts of the items of an array. -/
def itemTexts : List Json → List String
  | [] => []
  | item :: items => item.text :: itemTexts items

/-- The texts of the members of an object. -/
def memberTexts : List (String × Json) → List String
  | [] => []
  | member :: members => (jsonString member.1 ++ ":" ++ member.2.text) :: memberTexts members
end

mutual
/-- Whether every number in a value is finite. -/
def Json.isFinite : Json → Bool
  | .float x => x.isFinite
  | .arr items => itemsFinite items
  | .obj members => membersFinite members
  | _ => true

/-- Whether every number in the items is finite. -/
def itemsFinite : List Json → Bool
  | [] => true
  | item :: items => item.isFinite && itemsFinite items

/-- Whether every number in the members is finite. -/
def membersFinite : List (String × Json) → Bool
  | [] => true
  | member :: members => member.2.isFinite && membersFinite members
end

end PlanLint
