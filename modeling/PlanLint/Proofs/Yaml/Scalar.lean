import PlanLint.Proofs.Yaml.Failure
import PlanLint.Yaml.Scalar.Moment
import PlanLint.Yaml.Scalar.Number

/-! A scalar stands for a value, or for a problem where it stands; reading breaks off only at a boolean that
an explicit tag asks for. -/

namespace PlanLint

variable {text : List Char} {breaks : Breakdown → Prop} {start : Mark}

/-- An integer in a base. -/
theorem readIntegerIn_gives (base : Nat) (word : List Char) : Gives.Any text breaks (readIntegerIn base word) := by
  -- A word that is no number in the base is a problem without a place.
  unfold readIntegerIn
  dsimp only
  split
  · exact .ite (fun _ => problemOf_isOf) fun _ => trivial
  · exact problemOf_isOf

/-- A number in pieces of sixty. -/
theorem readSexagesimal_gives (pieces : List (List Char)) : Gives.Any text breaks (readSexagesimal pieces) :=
  (Gives.Any.mapM (readIntegerIn_gives 10) pieces).bind fun _ => trivial

/-- The integer that a scalar spells. -/
theorem readInteger_gives (isCurrent : Bool) (word : List Char) :
    Gives.Any text breaks (readInteger isCurrent word) := by
  unfold readInteger
  dsimp only
  -- One case for each way to write an integer, with or without a base.
  split
  · exact trivial
  · exact (readIntegerIn_gives ..).bind fun _ => trivial
  · exact (readIntegerIn_gives ..).bind fun _ => trivial
  · exact (readIntegerIn_gives ..).bind fun _ => trivial
  · exact .ite (fun _ => (readIntegerIn_gives ..).bind fun _ => trivial)
      fun _ => (readIntegerIn_gives ..).bind fun _ => trivial
  · exact .ite (fun _ => (readSexagesimal_gives _).bind fun _ => trivial)
      fun _ => (readIntegerIn_gives ..).bind fun _ => trivial

/-- The floating-point number that a text spells. -/
theorem readFloatText_gives (word : List Char) : Gives.Any text breaks (readFloatText word) := by
  -- Infinity and what is not a number have words of their own, any other word is a decimal number.
  unfold readFloatText
  dsimp only
  refine .ite (fun _ => trivial) fun _ => .ite (fun _ => trivial) fun _ => ?_
  split
  · exact trivial
  · exact problemOf_isOf

/-- The letters of an exponent. -/
theorem checkExponent_gives (word : List Char) : Gives.Any text breaks (checkExponent word) :=
  .ite (fun _ => trivial) fun _ => problemOf_isOf

/-- The floating-point number that a scalar spells. -/
theorem readFloat_gives (isCurrent : Bool) (word : List Char) :
    Gives.Any text breaks (readFloat isCurrent word) := by
  unfold readFloat
  dsimp only
  have number : Gives.Any text breaks (readFloatText (splitSign (smallLetters (word.filter (· != '_')))).2) :=
    readFloatText_gives _
  refine .ite (fun _ => trivial) fun _ => .ite (fun _ => trivial) fun _ => ?_
  refine .ite (fun _ => (Gives.Any.mapM readFloatText_gives _).bind fun _ => trivial) fun _ => ?_
  -- The exponent is looked at where there may be one.
  exact .ite (fun _ => (checkExponent_gives word).bind fun _ => number.bind fun _ => trivial)
    fun _ => number.bind fun _ => trivial

/-- A part of a date or of a time, or a problem with it. -/
theorem checkPart_gives (part : TimePart) (isInRange : Bool) (number : Nat) :
    Gives.Any text breaks (checkPart part isInRange number) :=
  .ite (fun _ => trivial) fun _ => problemOf_isOf

/-- A date of the calendar. -/
theorem checkDate_gives (date : Date) : Gives.Any text breaks (checkDate date) :=
  (checkPart_gives ..).bind fun _ => (checkPart_gives ..).bind fun _ => checkPart_gives ..

/-- The zone of a time of day. -/
theorem offset_gives (clock : ClockParts) : Gives.Any text breaks clock.offset := by
  unfold ClockParts.offset
  split
  · exact trivial
  · rename_i hours minutes _
    dsimp only
    -- Only the size of the offset can be a problem.
    generalize (hours : Int) * 60 + minutes = total
    split
    · exact trivial
    · exact problemOf_isOf

/-- A date with a time of day. -/
theorem onDate_gives (clock : ClockParts) (date : Date) : Gives.Any text breaks (clock.onDate date) :=
  (offset_gives clock).bind fun _ => (checkDate_gives date).bind fun _ => (checkPart_gives ..).bind fun _ =>
    (checkPart_gives ..).bind fun _ => (checkPart_gives ..).bind fun _ => trivial

/-- The date or the timestamp that a scalar spells. -/
theorem readMoment_gives (word : List Char) (place : start.IsPlaceOf text) :
    Gives.Any text breaks (readMoment start word) := by
  -- Only a text without the form of a date has its problem placed, at the start of the scalar.
  unfold readMoment
  split
  · exact problemAt_isOf place
  · exact (checkDate_gives _).bind fun _ => trivial
  · exact (onDate_gives ..).bind fun _ => trivial

end PlanLint
