import PlanLint.Proofs.Yaml.Place
import PlanLint.Yaml.Problem

/-! What the failures of a reader have to do with its text: a problem is at a place of the text, and a
breakdown has a cause that the reader is known to break off with. -/

namespace PlanLint

/-- A failure that belongs to a text: a problem at a place of it, or a breakdown of a known kind. -/
inductive ReadError.IsOf (text : List Char) (breaks : Breakdown → Prop) : ReadError → Prop
  | problem {found : Problem} (placed : ∀ mark ∈ found.place.or found.started, mark.IsPlaceOf text) :
      IsOf text breaks (.problem found)
  | breakdown {cause : Breakdown} (known : breaks cause) : IsOf text breaks (.breakdown cause)

/-- Whatever is read has a property, and whatever reading fails with belongs to the text. -/
def Gives {α : Type} (text : List Char) (breaks : Breakdown → Prop) (holds : α → Prop) :
    Except ReadError α → Prop
  | .ok a => holds a
  | .error failure => failure.IsOf text breaks

variable {text : List Char} {breaks : Breakdown → Prop} {mark : Mark} {reason : Reason}

/-- A problem at a place of a text belongs to it, whatever activity met it. -/
theorem placed_isOf {activity : Option Activity} {started : Option Mark} (place : mark.IsPlaceOf text) :
    (ReadError.problem ⟨reason, some mark, activity, started⟩).IsOf text breaks := by
  -- The place that is given comes before the start of any activity.
  refine .problem fun found here => ?_
  rw [← Option.some.inj here]
  exact place

/-- The same without an activity. -/
theorem problemAt_isOf (place : mark.IsPlaceOf text) : (problemAt mark reason).IsOf text breaks :=
  placed_isOf place

/-- The same with an activity; it does not matter where that started. -/
theorem problemWhile_isOf {activity : Activity} {started : Mark} (place : mark.IsPlaceOf text) :
    (problemWhile activity started mark reason).IsOf text breaks :=
  placed_isOf place

/-- A problem without a place belongs to every text. -/
theorem problemOf_isOf : (problemOf reason).IsOf text breaks := by
  -- There is no mark that would have to be a place.
  exact .problem fun found here => absurd here (by simp)

/-- What belongs to a text still does if reading may break off in more ways. -/
theorem ReadError.IsOf.mono {more : Breakdown → Prop} {failure : ReadError} (belongs : failure.IsOf text breaks)
    (weakens : ∀ cause, breaks cause → more cause) : failure.IsOf text more := by
  -- Only the cause of a breakdown is looked at in another way.
  cases belongs with
  | problem placed => exact .problem placed
  | breakdown known => exact .breakdown (weakens _ known)

namespace Gives

variable {α β : Type} {holds : α → Prop} {later : β → Prop}

/-- One reading after another. -/
theorem bind {first : Except ReadError α} {next : α → Except ReadError β} (gives : Gives text breaks holds first)
    (then_gives : ∀ a, holds a → Gives text breaks later (next a)) : Gives text breaks later (first >>= next) := by
  -- A first reading that fails is the failure of both.
  cases first with
  | ok a => exact then_gives a gives
  | error failure => exact gives

/-- A weaker property. -/
theorem mono {weaker : α → Prop} {read : Except ReadError α} (gives : Gives text breaks holds read)
    (weakens : ∀ a, holds a → weaker a) : Gives text breaks weaker read := by
  -- The property only speaks of what is read, so a failure stays what it is.
  cases read with
  | ok a => exact weakens a gives
  | error failure => exact gives

/-- What is made of something read. -/
theorem map {read : Except ReadError α} {make : α → β} (gives : Gives text breaks holds read)
    (made : ∀ a, holds a → later (make a)) : Gives text breaks later (read.map make) := by
  -- Nothing is made of a failure.
  cases read with
  | ok a => exact made a gives
  | error failure => exact gives

/-- A choice between two readings. -/
theorem ite {condition : Prop} [Decidable condition] {yes no : Except ReadError α}
    (first : condition → Gives text breaks holds yes) (second : ¬ condition → Gives text breaks holds no) :
    Gives text breaks holds (if condition then yes else no) := by
  -- Each of the two may use what the choice tells.
  split
  · exact first ‹_›
  · exact second ‹_›

/-- Something is read, or the failure belongs to the text. -/
abbrev Any (text : List Char) (breaks : Breakdown → Prop) (read : Except ReadError α) : Prop :=
  Gives text breaks (fun _ => True) read

/-- One reading after another whose value does not matter. -/
theorem Any.bind {first : Except ReadError α} {next : α → Except ReadError β} (gives : Any text breaks first)
    (then_gives : ∀ a, Gives text breaks later (next a)) : Gives text breaks later (first >>= next) :=
  Gives.bind gives fun a _ => then_gives a

/-- Readings of all the members of a list. -/
theorem Any.mapM {read : α → Except ReadError β} (each : ∀ a, Any text breaks (read a)) (items : List α) :
    Any text breaks (items.mapM read) := by
  -- The first member that fails ends the reading, and its failure is one of the text.
  induction items with
  | nil => exact trivial
  | cons a items ih =>
    rw [List.mapM_cons]
    exact (each a).bind fun _ => ih.bind fun _ => trivial

end Gives

end PlanLint
