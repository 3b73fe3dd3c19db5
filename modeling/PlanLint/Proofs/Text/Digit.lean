import PlanLint.Text.Digit
import Mathlib.Tactic.Common

/-! The decimal digits of a number. -/

namespace PlanLint

/-- Each of the sixteen digits reads back as its value. -/
theorem hexValue?_digitChar {n : Nat} (small : n < 16) : hexValue? n.digitChar = some n := by
  -- Sixteen values can be tried.
  have all : ∀ k < 16, hexValue? (Nat.digitChar k) = some k := by decide
  exact all n small

/-- No hexadecimal digit is a control character. -/
theorem visible_of_hexValue? {c : Char} {n : Nat} (value : hexValue? c = some n) : 0x1F < c.toNat := by
  have zero : '0'.toNat = 48 ∧ 'a'.toNat = 97 ∧ 'A'.toNat = 65 := by decide
  have code : c.val.toNat = c.toNat := rfl
  -- Digits and letters of both cases are three ranges of codes, all above the control characters.
  unfold hexValue? at value
  simp only [Char.le_def, UInt32.le_iff_toNat_le, Bool.and_eq_true, decide_eq_true_eq] at value
  grind

/-- The ten digits of ASCII are those that the library knows. -/
theorem isAsciiDigit_eq_isDigit (c : Char) : isAsciiDigit c = c.isDigit := rfl

/-- What a look at each of the ten digits shows. -/
theorem of_isAsciiDigit {P : Char → Prop} (all : ∀ n < 10, P (Nat.digitChar n)) {c : Char}
    (digit : isAsciiDigit c = true) : P c := by
  obtain ⟨low, high⟩ := Bool.and_eq_true _ _ ▸ digit
  have least : 0x30 ≤ c.toNat := by simpa [Char.le_def, UInt32.le_iff_toNat_le] using low
  have most : c.toNat ≤ 0x39 := by simpa [Char.le_def, UInt32.le_iff_toNat_le] using high
  -- A character is known by its code, of which there are ten.
  have code : ∀ n < 0x3A, 0x30 ≤ n → Char.ofNat n = Nat.digitChar (n - 0x30) := by decide
  have same := code c.toNat (by omega) least
  rw [Char.ofNat_toNat] at same
  rw [same]
  exact all (c.toNat - 0x30) (by omega)

/-- They are decimal digits. -/
theorem isDecimalDigit_of_isAsciiDigit {c : Char} (digit : isAsciiDigit c = true) : isDecimalDigit c = true :=
  of_isAsciiDigit (P := fun d => isDecimalDigit d = true) (by decide) digit

/-- The digits of a number are ASCII digits. -/
theorem isAsciiDigit_of_mem_toDigits {n : Nat} {c : Char} (member : c ∈ Nat.toDigits 10 n) :
    isAsciiDigit c = true := by
  -- The library knows the digits of a number by another test for the same characters.
  have digit : c.isDigit = true := Nat.isDigit_of_mem_toDigits (by decide) (by decide) member
  rwa [← isAsciiDigit_eq_isDigit] at digit

/-- Behind its last digit a number has the digits of its tenth. -/
theorem toDigits_of_ten_le {n : Nat} (large : 10 ≤ n) :
    Nat.toDigits 10 n = Nat.toDigits 10 (n / 10) ++ [(n % 10).digitChar] :=
  Nat.toDigits_of_base_le (by decide) large

/-- The digits of a number spell it. -/
theorem ofDigits_toDigits (n : Nat) : ofDigits 10 ((Nat.toDigits 10 n).filterMap hexValue?) = n := by
  -- Induction on the number, from its tenth.
  induction n using Nat.strongRecOn with
  | ind n ih =>
    rcases Nat.lt_or_ge n 10 with small | large
    · rw [Nat.toDigits_of_lt_base small]
      simp [hexValue?_digitChar (show n < 16 by omega), ofDigits]
    · have tenth := ih (n / 10) (by omega)
      rw [ofDigits] at tenth ⊢
      rw [toDigits_of_ten_le large, List.filterMap_append, List.foldl_append, tenth]
      simp only [List.filterMap_cons, List.filterMap_nil, hexValue?_digitChar (show n % 10 < 16 by omega),
        List.foldl_cons, List.foldl_nil]
      omega

/-- The first digit of a positive number is not zero. -/
theorem head?_toDigits {n : Nat} (positive : 0 < n) : (Nat.toDigits 10 n).head? ≠ some '0' := by
  -- Induction on the number, from its tenth, which has the same first digit.
  induction n using Nat.strongRecOn with
  | ind n ih =>
    rcases Nat.lt_or_ge n 10 with small | large
    · have all : ∀ k < 10, 0 < k → k.digitChar ≠ '0' := by decide
      rw [Nat.toDigits_of_lt_base small]
      simpa using all n small positive
    · obtain ⟨first, rest, digits⟩ := List.exists_cons_of_ne_nil (Nat.toDigits_ne_nil (n := n / 10) (b := 10))
      have tenth := ih (n / 10) (by omega) (by omega)
      rw [toDigits_of_ten_le large]
      simpa [digits] using tenth

end PlanLint
