import PlanLint.Text.Lines
import PlanLint.Yaml.Problem

/-! Dates and timestamps, as scalars spell them. -/

namespace PlanLint

/-- A time of day behind a date, as it is written. -/
structure ClockParts where
  lettered : Bool
  hour : Nat
  minute : Nat
  second : Nat
  fraction : List Char
  /-- The zone is the letter Z. -/
  universal : Bool
  /-- A zone in hours and minutes behind universal time or before it. -/
  zone : Option (Bool × Nat × Nat)
deriving DecidableEq, Repr

/-- A date, possibly with a time of day, as it is written. -/
structure MomentParts where
  date : Date
  clock : Option ClockParts
deriving DecidableEq, Repr

/-- The number that exactly some ASCII digits spell, and the text behind them. -/
def fixedNumber? (width : Nat) (text : List Char) : Option (Nat × List Char) :=
  let digits := text.take width
  if digits.length == width && digits.all isAsciiDigit then
    some (ofDigits 10 (digits.filterMap hexValue?), text.drop width)
  else none

/-- The number that one or two ASCII digits spell. -/
def shortNumber? (text : List Char) : Option (Nat × List Char) :=
  (fixedNumber? 2 text).or (fixedNumber? 1 text)

/-- The text behind a character. -/
def behind? (c : Char) : List Char → Option (List Char)
  | d :: rest => if c == d then some rest else none
  | [] => none

/-- The zone that a whole text spells, blanks before it apart. -/
def readZone (text : List Char) : Option (Bool × Option (Bool × Nat × Nat)) :=
  match text.dropWhile fun c => c == ' ' || c == '\t' with
  -- Blanks without a zone behind them are not allowed.
  | [] => if text.isEmpty then some (false, none) else none
  | ['Z'] => some (true, none)
  | sign :: rest => do
    if sign != '+' && sign != '-' then none
    let (hours, rest) ← shortNumber? rest
    -- The minutes may be left out.
    if rest.isEmpty then return (false, some (sign == '-', hours, 0))
    let (minutes, rest) ← fixedNumber? 2 (← behind? ':' rest)
    if rest.isEmpty then return (false, some (sign == '-', hours, minutes)) else none

/-- The time of day that a whole text spells, the mark between date and time included. -/
def readClock (text : List Char) : Option ClockParts := do
  let lettered := text.head? == some 'T' || text.head? == some 't'
  let digits := if lettered then text.drop 1 else text.dropWhile fun c => c == ' ' || c == '\t'
  -- Something has to stand between date and time.
  if digits.length == text.length then none
  let (hour, rest) ← shortNumber? digits
  let (minute, rest) ← fixedNumber? 2 (← behind? ':' rest)
  let (second, rest) ← fixedNumber? 2 (← behind? ':' rest)
  let (fraction, rest) := match rest with
    | '.' :: rest => (rest.takeWhile isAsciiDigit, rest.dropWhile isAsciiDigit)
    | rest => ([], rest)
  let (universal, zone) ← readZone rest
  return ⟨lettered, hour, minute, second, fraction, universal, zone⟩

/-- The date or timestamp that a whole text spells. -/
def readMomentParts (text : List Char) : Option MomentParts := do
  let (year, rest) ← fixedNumber? 4 text
  let (month, rest) ← shortNumber? (← behind? '-' rest)
  let (day, rest) ← shortNumber? (← behind? '-' rest)
  if rest.isEmpty then return ⟨⟨year, month, day⟩, none⟩
  let clock ← readClock rest
  return ⟨⟨year, month, day⟩, some clock⟩

/-- A number in its range, or a problem that names the part of the moment. -/
def checkPart (part : TimePart) (isInRange : Bool) (number : Nat) : Except ReadError Unit :=
  if isInRange then .ok () else .error (problemOf (.badTime part number))

/-- A date of the calendar. -/
def checkDate (d : Date) : Except ReadError Unit := do
  checkPart .year (1 ≤ d.year) d.year
  checkPart .month (1 ≤ d.month && d.month ≤ 12) d.month
  checkPart .day (1 ≤ d.day && d.day ≤ daysInMonth d.year d.month) d.day

/-- A fraction of a second in microseconds; the seventh digit rounds. -/
def microseconds (fraction : List Char) : Nat :=
  -- The first six digits count, and missing ones are noughts.
  let padded := (fraction ++ List.replicate 6 '0').take 6
  let up := (fraction[6]?).any fun c => (hexValue? c).any (· > 4)
  ofDigits 10 (padded.filterMap hexValue?) + (if up then 1 else 0)

/-- The day after a date. -/
def Date.next (d : Date) : Date :=
  if d.day < daysInMonth d.year d.month then { d with day := d.day + 1 }
  else if d.month < 12 then ⟨d.year, d.month + 1, 1⟩
  else ⟨d.year + 1, 1, 1⟩

/-- The second after a moment. -/
def Timestamp.nextSecond (t : Timestamp) : Timestamp :=
  if t.second < 59 then { t with second := t.second + 1 }
  else if t.minute < 59 then { t with minute := t.minute + 1, second := 0 }
  else if t.hour < 23 then { t with hour := t.hour + 1, minute := 0, second := 0 }
  else { t with date := t.date.next, hour := 0, minute := 0, second := 0 }

/-- The minutes that a zone is ahead of universal time, less than a day either way. -/
def ClockParts.offset (c : ClockParts) : Except ReadError (Option Int) :=
  match c.zone with
  | none => .ok (if c.universal then some 0 else none)
  | some (isBehind, hours, minutes) =>
    let total : Int := hours * 60 + minutes
    let offset := if isBehind then -total else total
    if total < 1440 then .ok (some offset) else .error (problemOf (.badOffset offset))

/-- The timestamp of a date and a time of day. -/
def ClockParts.onDate (c : ClockParts) (date : Date) : Except ReadError Timestamp := do
  -- The zone is checked first, then the date, then the time.
  let offset ← c.offset
  checkDate date
  checkPart .hour (c.hour ≤ 23) c.hour
  checkPart .minute (c.minute ≤ 59) c.minute
  checkPart .second (c.second ≤ 59) c.second
  let micro := microseconds c.fraction
  let t : Timestamp := { date, hour := c.hour, minute := c.minute, second := c.second
                         microsecond := micro % 1000000, offset, lettered := c.lettered
                         formKept := c.lettered || c.zone.isSome }
  -- Rounding up may reach the next second, and with it the next day.
  return if micro < 1000000 then t else t.nextSecond

/-- The date or timestamp that a scalar spells; a newline at its end does not count. -/
def readMoment (start : Mark) (text : List Char) : Except ReadError Value := do
  match readMomentParts (withoutLastNewline text) with
  | none => throw (problemAt start (.badTimestamp (String.ofList text)))
  | some ⟨date, none⟩ =>
    checkDate date
    return .date date
  | some ⟨date, some clock⟩ =>
    let t ← clock.onDate date
    return .timestamp t

end PlanLint
