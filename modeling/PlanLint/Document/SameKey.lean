import PlanLint.Decimal.Shortest
import PlanLint.Document.Value

/-! When two values are one and the same key. -/

namespace PlanLint

/-- Whether a floating-point number is exactly an integer. -/
def floatIsInt (x : Float) (n : Int) : Bool :=
  let bits := x.toBits
  let negative := bits ≥ 0x8000000000000000
  let value := Binary.ofBits bits
  if !x.isFinite then false
  else if n == 0 then value.mantissa == 0
  else if negative != decide (n < 0) then false
  else if value.exponent ≥ 0 then value.mantissa * Nat.pow 2 value.exponent.toNat == n.natAbs
  else value.mantissa == n.natAbs * Nat.pow 2 (-value.exponent).toNat

/-- The integer that a value is, truth counting as one and falsehood as zero. -/
def Value.asInt? : Value → Option Int
  | .bool b => some (if b then 1 else 0)
  | .anchoredBool b => some (if b then 1 else 0)
  | .int n => some n
  | _ => none

mutual
/-- Whether two values are the same key: numbers are compared by value, whatever their kind, and the
value that is no number is the same as itself. -/
def Value.sameKey (v w : Value) : Bool :=
  match v, w with
  | .null, .null => true
  | .text s, .text t => s == t
  | .float x, .float y => x == y || (x.isNaN && y.isNaN)
  | .date d, .date e => d == e
  | .timestamp t, .timestamp u => t.sameMoment u
  | .bytes b, .bytes c => b == c
  | .tuple items, .tuple others => sameKeys items others
  | .keyMapping entries, .keyMapping others =>
    entries.length == others.length && entriesAmong entries others
  | v, w =>
    match v.asInt?, w.asInt?, v, w with
    | some n, some m, _, _ => n == m
    | some n, none, _, .float y => floatIsInt y n
    | none, some m, .float x, _ => floatIsInt x m
    | _, _, _, _ => false
termination_by structural v

/-- Whether two lists hold the same keys in the same order. -/
def sameKeys (items others : List Value) : Bool :=
  match items, others with
  | [], [] => true
  | item :: items, other :: others => item.sameKey other && sameKeys items others
  | _, _ => false
termination_by structural items

/-- Whether every entry is among some others. -/
def entriesAmong (entries others : List (Value × Value)) : Bool :=
  match entries with
  | [] => true
  | (key, value) :: entries =>
    others.any (fun other => key.sameKey other.1 && value.sameKey other.2) && entriesAmong entries others
termination_by structural entries
end

/-- The value under a key that is the same. -/
def valueAtKey? (entries : Entries) (key : Value) : Option Value :=
  (entries.find? fun entry => entry.1.sameKey key).map (·.2)

end PlanLint
