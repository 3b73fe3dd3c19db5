import PlanLint.Text.Digit

/-! Dates and times of day, with their offset from universal time. -/

namespace PlanLint

/-- A day of the calendar. -/
structure Date where
  year : Nat
  month : Nat
  day : Nat
deriving DecidableEq, Repr

/-- A leap year has a twenty-ninth of February. -/
def isLeapYear (year : Nat) : Bool := (year % 4 == 0 && year % 100 != 0) || year % 400 == 0

/-- The number of days of a month. -/
def daysInMonth (year month : Nat) : Nat :=
  if month == 2 then (if isLeapYear year then 29 else 28)
  else if [4, 6, 9, 11].contains month then 30
  else 31

/-- The number of days before a date, counted from the first of January of the year one. -/
def Date.ordinal (d : Date) : Nat :=
  let past := d.year - 1
  let months := (List.range (d.month - 1)).map fun m => daysInMonth d.year (m + 1)
  past * 365 + past / 4 - past / 100 + past / 400 + months.foldl (· + ·) 0 + (d.day - 1)

/-- Year, month and day with hyphens. -/
def Date.text (d : Date) : String :=
  paddedText 4 d.year ++ "-" ++ paddedText 2 d.month ++ "-" ++ paddedText 2 d.day

/-- A date with a time of day. -/
structure Timestamp where
  date : Date
  hour : Nat
  minute : Nat
  second : Nat
  microsecond : Nat
  /-- The minutes that local time is ahead of universal time. -/
  offset : Option Int
  /-- The letter T stands between date and time, not a space. -/
  lettered : Bool
  /-- The offset was written in digits or the letter T was there, so the text keeps its form. -/
  formKept : Bool
deriving DecidableEq, Repr

/-- An offset as sign, hours and minutes. -/
def offsetText (minutes : Int) : String :=
  (if minutes < 0 then "-" else "+") ++ paddedText 2 (minutes.natAbs / 60) ++ ":" ++
    paddedText 2 (minutes.natAbs % 60)

/-- Date, time, the fraction of a second if there is one, and the offset if there is one. -/
def Timestamp.text (t : Timestamp) : String :=
  t.date.text ++ (if t.lettered then "T" else " ") ++
    paddedText 2 t.hour ++ ":" ++ paddedText 2 t.minute ++ ":" ++ paddedText 2 t.second ++
    (if t.microsecond == 0 then "" else "." ++ paddedText 6 t.microsecond) ++
    (t.offset.map offsetText).getD ""

/-- The microseconds of a timestamp since the year one, in universal time where an offset is known. -/
def Timestamp.instant (t : Timestamp) : Int :=
  let minutes : Int := ((t.date.ordinal * 24 + t.hour) * 60 + t.minute : Nat) - t.offset.getD 0
  (minutes * 60 + (t.second : Int)) * 1000000 + (t.microsecond : Int)

/-- Two timestamps name the same moment; one without an offset is never the same as one with. -/
def Timestamp.sameMoment (s t : Timestamp) : Bool :=
  s.offset.isSome == t.offset.isSome && s.instant == t.instant

end PlanLint
