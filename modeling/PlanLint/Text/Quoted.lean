import PlanLint.Text.Digit
import PlanLint.Text.Printable

/-! Quoted forms of texts and byte strings. -/

namespace PlanLint

/-- The escape of a code point: two, four or eight hexadecimal digits, as few as it needs. -/
def escapedCode (n : Nat) : String :=
  if n < 0x100 then "\\x" ++ hexText 2 n
  else if n < 0x10000 then "\\u" ++ hexText 4 n
  else "\\U" ++ hexText 8 n

/-- Single quotes, unless the text holds one and no double quote. -/
def quoteFor (text : List Char) : Char :=
  if text.contains '\'' && !text.contains '"' then '"' else '\''

/-- A character inside quotes: the quote and the backslash are escaped, so are line ends and tabs,
and whatever has no visible form is given by its code. -/
def quotedChar (quote c : Char) : String :=
  if c == quote || c == '\\' then String.ofList ['\\', c]
  else if c == '\n' then "\\n"
  else if c == '\r' then "\\r"
  else if c == '\t' then "\\t"
  else if isPrintable c then c.toString
  else escapedCode c.toNat

/-- A text in quotes. -/
def quoted (text : String) : String :=
  let quote := quoteFor text.toList
  quote.toString ++ String.join (text.toList.map (quotedChar quote)) ++ quote.toString

/-- A byte inside quotes: printable ASCII as it is, everything else escaped. -/
def quotedByte (quote : Char) (b : UInt8) : String :=
  let c := Char.ofNat b.toNat
  if c == quote || c == '\\' then String.ofList ['\\', c]
  else if c == '\n' then "\\n"
  else if c == '\r' then "\\r"
  else if c == '\t' then "\\t"
  else if 0x20 ≤ b.toNat && b.toNat < 0x7F then c.toString
  else "\\x" ++ hexText 2 b.toNat

/-- A byte string: quoted and marked with a `b`. -/
def quotedBytes (bytes : List UInt8) : String :=
  let quote := quoteFor (bytes.map fun b => Char.ofNat b.toNat)
  "b" ++ quote.toString ++ String.join (bytes.map (quotedByte quote)) ++ quote.toString

end PlanLint
