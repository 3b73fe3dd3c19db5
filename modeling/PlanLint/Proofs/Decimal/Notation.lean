import PlanLint.Decimal.Notation
import PlanLint.Proofs.Decimal.Shortest
import PlanLint.Proofs.Text.Digit

/-! The digits that a double is written in. -/

namespace PlanLint

/-- A zero at the end of digits counts in the power. -/
theorem withoutTrailingZeros_append (digits : List Char) (power : Int) :
    withoutTrailingZeros (digits ++ ['0']) power = withoutTrailingZeros digits (power + 1) := by
  -- From behind the zero is the first digit to be dropped, so one more is counted.
  have shorter := (List.dropWhile_sublist (l := digits.reverse) (p := (· == '0'))).length_le
  rw [List.length_reverse] at shorter
  unfold withoutTrailingZeros
  simp only [List.reverse_append, List.reverse_cons, List.reverse_nil, List.nil_append, List.singleton_append,
    List.dropWhile_cons, beq_self_eq_true, if_true, List.length_append, List.length_reverse, List.length_singleton]
  congr 1
  omega

/-- Another digit at the end stays there. -/
theorem withoutTrailingZeros_of_ne {last : Char} (power : Int) (other : last ≠ '0') (digits : List Char) :
    withoutTrailingZeros (digits ++ [last]) power = (digits ++ [last], power) := by
  -- From behind this digit comes first and stops the search for zeros.
  unfold withoutTrailingZeros
  simp [other]

/-- The last digit of a number is what it leaves when divided by ten. -/
theorem exists_toDigits_append (n : Nat) : ∃ front, Nat.toDigits 10 n = front ++ [(n % 10).digitChar] := by
  -- A number below ten has no digit in front of its last one.
  rcases Nat.lt_or_ge n 10 with small | large
  · exact ⟨[], by rw [Nat.toDigits_of_lt_base small, Nat.mod_eq_of_lt small]; rfl⟩
  · exact ⟨_, toDigits_of_ten_le large⟩

/-- The digits of a number without the zeros at their end are those of the number without its factors of ten. -/
theorem exists_withoutTrailingZeros {n : Nat} (positive : 0 < n) (power : Int) :
    ∃ k j : Nat, n = k * 10 ^ j ∧ k % 10 ≠ 0 ∧
      withoutTrailingZeros (Nat.toDigits 10 n) power = (Nat.toDigits 10 k, power + j) := by
  -- Induction on the number, from its tenth.
  induction n using Nat.strongRecOn generalizing power with
  | ind n ih =>
    by_cases last : n % 10 = 0
    · -- A zero at the end is dropped.
      obtain ⟨k, j, split, whole, digits⟩ := ih (n / 10) (by omega) (by omega) (power + 1)
      refine ⟨k, j + 1, by rw [Nat.pow_succ, ← Nat.mul_assoc, ← split]; omega, whole, ?_⟩
      have zero : (n % 10).digitChar = '0' := by rw [last]; rfl
      rw [toDigits_of_ten_le (by omega), zero, withoutTrailingZeros_append, digits]
      congr 1
      omega
    · refine ⟨n, 0, by omega, last, ?_⟩
      obtain ⟨front, digits⟩ := exists_toDigits_append n
      have all : ∀ digit < 10, digit ≠ 0 → digit.digitChar ≠ '0' := by decide
      rw [digits, withoutTrailingZeros_of_ne power (all _ (Nat.mod_lt n (by decide)) last)]
      simp

/-- What a double is written as, zeros at its end apart: a number that is not divisible by ten, and its power. -/
structure Binary.IsWritten (b : Binary) (k : Nat) (power : Int) : Prop where
  digits : withoutTrailingZeros (Nat.toDigits 10 b.shortest.1) b.shortest.2 = (Nat.toDigits 10 k, power)
  positive : 0 < k
  rounds : b.RoundsFrom (k * 10 ^ power)
  /-- No decimal of one digit is rounded to the double unless it is written in one. -/
  shortest : ∀ (d : Nat) (exponent : Int), d < 10 → b.RoundsFrom (d * 10 ^ exponent) → k < 10

/-- A double other than zero is written in a number of digits. -/
theorem exists_isWritten {n : Nat} (positive : 0 < n) : ∃ k power, (doubleAt n).IsWritten k power := by
  obtain ⟨some_mantissa, short, narrow⟩ := mantissa_spec positive
  obtain ⟨count, some_digit, found, fewer⟩ := shortest_spec some_mantissa short narrow
  rcases decimal : (doubleAt n).shortest with ⟨m, power⟩
  rw [decimal] at found
  obtain ⟨-, neighbour, rounds⟩ := withDigits?_eq_some some_mantissa found
  obtain ⟨least, most⟩ := gridPoint_digits some_mantissa some_digit
  have powers : 0 < 10 ^ (count - 1) := by positivity
  obtain ⟨k, j, split, whole, digits⟩ := exists_withoutTrailingZeros (show 0 < m by omega) power
  refine ⟨k, power + j, by rw [decimal, digits], by omega, ?_, ?_⟩
  · have value : (k : ℚ) * 10 ^ (power + (j : ℤ)) = m * 10 ^ power := by
      rw [split, zpow_add₀ (by norm_num), zpow_natCast]
      push_cast
      ring
    rw [value]
    exact rounds
  · intro d exponent small one
    -- One digit is found before any others, and it is one of the neighbours on its grid.
    obtain rfl : count = 1 := by
      by_contra more
      exact withDigits?_ne_none some_mantissa Nat.one_pos small one (fewer 1 Nat.one_pos (by omega))
    have factor : k ≤ k * 10 ^ j := Nat.le_mul_of_pos_right k (by positivity)
    omega

end PlanLint
