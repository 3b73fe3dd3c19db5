import PlanLint.Yaml.Problem

/-! What reading a part of a document gives. -/

namespace PlanLint

/-- A value or the reason why there is none, and besides the first repeated key met on the way.
Whether a repeated key is an error is for the reader of the whole to say: reading goes on as if the
later entry were not there. -/
structure Outcome (α : Type) where
  result : Except ReadError α
  repeated : Option ReadError

namespace Outcome

/-- A value that is there without reading. -/
def known {α : Type} (a : α) : Outcome α := ⟨.ok a, none⟩

/-- One reading after another; the second is given the value of the first. -/
def andThen {α β : Type} (first : Outcome α) (second : α → Outcome β) : Outcome β :=
  match first.result with
  | .error failure => ⟨.error failure, first.repeated⟩
  | .ok a =>
    -- The first repeated key counts, in the order of the text.
    let next := second a
    ⟨next.result, first.repeated.or next.repeated⟩

instance : Monad Outcome where
  pure := known
  bind := andThen

/-- A failed reading. -/
def failed {α : Type} (failure : ReadError) : Outcome α := ⟨.error failure, none⟩

/-- A result without a repeated key. -/
def ofResult {α : Type} (result : Except ReadError α) : Outcome α := ⟨result, none⟩

/-- Notes a repeated key. -/
def noting (repetition : ReadError) : Outcome Unit := ⟨.ok (), some repetition⟩

/-- A reading whose every failure counts as one and the same. -/
def orElseFail {α : Type} (o : Outcome α) (failure : ReadError) : Outcome α :=
  ⟨match o.result with
    | .ok a => .ok a
    | .error _ => .error failure,
    o.repeated.map fun _ => failure⟩

/-- The result when repeated keys are allowed or not. -/
def settle {α : Type} (o : Outcome α) (allowsRepeated : Bool) : Except ReadError α :=
  match o.repeated with
  -- A repeated key comes before whatever failed behind it.
  | some repetition => if allowsRepeated then o.result else .error repetition
  | none => o.result

end Outcome

end PlanLint
