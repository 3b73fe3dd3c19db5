import PlanLint.Document.Value
import PlanLint.Decimal.Notation
import PlanLint.Text.Quoted

/-! How values are shown in messages: a scalar as its text, a collection with its members quoted. -/

namespace PlanLint

/-- Why a value cannot be shown. -/
inductive Unprintable where
  /-- An integer has more decimal digits than are ever printed. -/
  | tooManyDigits
  /-- The value contains itself through mappings alone. -/
  | endless
deriving DecidableEq, Repr

/-- The most decimal digits that an integer may have to be shown or read. -/
def digitLimit : Nat := 4300

/-- An integer in decimal. -/
def intText (n : Int) : Except Unprintable String :=
  if n.natAbs < Nat.pow 10 digitLimit then .ok (signedText n) else .error .tooManyDigits

/-- A duration of whole minutes, in days and seconds. -/
def durationText (minutes : Int) : String :=
  let days := Int.fdiv minutes 1440
  let seconds := Int.fmod minutes 1440 * 60
  let parts := (if days == 0 then [] else ["days=" ++ signedText days]) ++
    (if seconds == 0 then [] else ["seconds=" ++ signedText seconds])
  "datetime.timedelta(" ++ (if parts.isEmpty then "0" else ", ".intercalate parts) ++ ")"

/-- The zone at an offset. -/
def zoneText (minutes : Int) : String :=
  if minutes == 0 then "datetime.timezone.utc"
  else "datetime.timezone(" ++ durationText minutes ++ ")"

/-- A date inside a collection. -/
def Date.quoted (d : Date) : String :=
  "datetime.date(" ++ ", ".intercalate ([d.year, d.month, d.day].map decimalText) ++ ")"

/-- A timestamp inside a collection: seconds and their fraction only as far as they are not zero. -/
def Timestamp.quoted (t : Timestamp) : String :=
  let fraction := if t.microsecond == 0 then [] else [t.microsecond]
  let seconds := if t.second == 0 && t.microsecond == 0 then [] else t.second :: fraction
  let numbers := [t.date.year, t.date.month, t.date.day, t.hour, t.minute] ++ seconds
  (if t.formKept then "TimeStamp(" else "datetime.datetime(") ++
    ", ".intercalate (numbers.map decimalText) ++
    ((t.offset.map fun minutes => ", tzinfo=" ++ zoneText minutes).getD "") ++ ")"

/-- The mark that stands for a style. -/
def ScalarStyle.quoted : ScalarStyle → String
  | .plain => "None"
  | .singleQuoted => PlanLint.quoted "'"
  | .doubleQuoted => PlanLint.quoted "\""
  | .literal => PlanLint.quoted "|"
  | .folded => PlanLint.quoted ">"

mutual
/-- Whether a value leads back to the document that contains it. -/
def Value.leadsBack : Value → Bool
  | .enclosing => true
  | .list items => anyLeadsBack items
  | .tuple items => anyLeadsBack items
  | .set items => anyLeadsBack items
  | .mapping entries => anyEntryLeadsBack entries
  | .keyMapping entries => anyEntryLeadsBack entries
  | _ => false

/-- Whether some item leads back. -/
def anyLeadsBack : List Value → Bool
  | [] => false
  | item :: items => item.leadsBack || anyLeadsBack items

/-- Whether some entry leads back. -/
def anyEntryLeadsBack : List (Value × Value) → Bool
  | [] => false
  | entry :: entries => entry.1.leadsBack || entry.2.leadsBack || anyEntryLeadsBack entries
end

mutual
/-- A value inside a collection. `within` tells that a list around it leads back to the document; a
second such list is the first one again and is cut short. -/
def Value.quotedIn (within : Bool) : Value → Except Unprintable String
  | .null => .ok "None"
  | .bool b => .ok (if b then "True" else "False")
  | .anchoredBool b => .ok (if b then "1" else "0")
  | .int n => intText n
  | .float x => .ok (plainNotation.text x)
  | .text s => .ok (quoted s)
  | .date d => .ok d.quoted
  | .timestamp t => .ok t.quoted
  | .bytes b => .ok (quotedBytes b)
  | .tagged tag style s =>
    .ok ("TaggedScalar(value=" ++ quoted s ++ ", style=" ++ style.quoted ++ ", tag=Tag(" ++ quoted tag ++ "))")
  | .list items =>
    let back := anyLeadsBack items
    if within && back then .ok "[...]"
    else do
      let shown ← quotedItems (within || back) items
      return "[" ++ ", ".intercalate shown ++ "]"
  | .tuple items => do
    let shown ← quotedItems within items
    -- A single member keeps a comma behind it.
    return "(" ++ ", ".intercalate shown ++ (if shown.length == 1 then ",)" else ")")
  | .mapping entries => do
    let shown ← quotedEntries within entries
    return "\x7b" ++ ", ".intercalate (shown.map fun entry => entry.1 ++ ": " ++ entry.2) ++ "\x7d"
  | .keyMapping entries => do
    let shown ← quotedEntries within entries
    if shown.isEmpty then return "ordereddict()"
    return "ordereddict([" ++
      ", ".intercalate (shown.map fun entry => "(" ++ entry.1 ++ ", " ++ entry.2 ++ ")") ++ "])"
  | .set items => do
    let shown ← quotedItems within items
    return "set(odict_keys([" ++ ", ".intercalate shown ++ "]))"
  | .enclosing => .error .endless

/-- The items of a collection, each shown. -/
def quotedItems (within : Bool) : List Value → Except Unprintable (List String)
  | [] => .ok []
  | item :: items => do
    let shown ← item.quotedIn within
    let rest ← quotedItems within items
    return shown :: rest

/-- The entries of a collection, keys and values shown. -/
def quotedEntries (within : Bool) : List (Value × Value) → Except Unprintable (List (String × String))
  | [] => .ok []
  | entry :: entries => do
    let key ← entry.1.quotedIn within
    let value ← entry.2.quotedIn within
    let rest ← quotedEntries within entries
    return (key, value) :: rest
end

/-- A value as it is shown by itself: texts bare, dates and times in their own notation. -/
def Value.shown : Value → Except Unprintable String
  | .text s => .ok s
  | .tagged _ _ s => .ok s
  | .date d => .ok d.text
  | .timestamp t => .ok t.text
  | value => value.quotedIn false

end PlanLint
