import PlanLint.Proofs.Decimal.Double

/-! A double is written in the fewest digits that are read as it again. -/

namespace PlanLint

section Fraction

variable (b : Binary)

/-- What the fraction of a double and the halves of the gaps around it stand for. -/
structure Binary.HasFraction (b : Binary) : Prop where
  positive : 0 < b.fraction.2
  value : (b.fraction.1 : ℚ) = b.value * b.fraction.2
  below : (b.halfGaps.1 : ℚ) = (b.value - b.lowerMiddle) * b.fraction.2
  above : (b.halfGaps.2 : ℚ) = (b.upperMiddle - b.value) * b.fraction.2

/-- A double in large units is a whole number, and so is a quarter of its unit. -/
theorem hasFraction_of_le (large : b.exponent ≥ 2) : b.HasFraction := by
  -- An exponent from two on leaves powers of two in the unit, its half and its quarter, all of them whole.
  obtain ⟨m, e, narrow⟩ := b
  obtain ⟨k, rfl⟩ : ∃ k : Nat, e = k + 2 := ⟨(e - 2).toNat, by dsimp only at large; omega⟩
  have natural : ((k : ℤ) + 2).toNat = k + 2 := by omega
  have unit : ((k : ℤ) + 2) = ((k + 2 : Nat) : ℤ) := by omega
  have half : ((k : ℤ) + 2 - 1) = ((k + 1 : Nat) : ℤ) := by omega
  have quarter : ((k : ℤ) + 2 - 2) = (k : ℤ) := by omega
  constructor <;>
    simp only [Binary.fraction, Binary.halfGaps, Binary.upperMiddle, Binary.lowerMiddle, Binary.value, Nat.pow_eq,
      sub_sub_cancel, add_sub_cancel_left, large, if_true, natural]
  case positive => exact Nat.one_pos
  case value =>
    rw [unit, zpow_natCast]
    push_cast
    ring
  case below =>
    -- Below a power of two the gap is half as wide, so its half is a quarter of the unit.
    cases narrow
    · simp only [Bool.false_eq_true, if_false, half, zpow_natCast]
      push_cast
      ring
    · simp only [if_true, quarter, zpow_natCast]
      rw [show k + 2 - 1 = k + 1 by omega, Nat.pow_succ, Nat.mul_div_cancel _ Nat.two_pos]
      push_cast
      ring
  case above =>
    rw [half, zpow_natCast]
    push_cast
    ring

/-- A double in small units is counted in quarters of them. -/
theorem hasFraction_of_lt (small : ¬ b.exponent ≥ 2) : b.HasFraction := by
  obtain ⟨m, e, narrow⟩ := b
  obtain ⟨k, rfl⟩ : ∃ k : Nat, e = 2 - k := ⟨(2 - e).toNat, by dsimp only at small; omega⟩
  -- The denominator takes the small part of every power of two away.
  have scaled : ∀ j : ℤ, (2 : ℚ) ^ (j - k) * ((2 ^ k : Nat) : ℚ) = 2 ^ j := by
    intro j
    push_cast
    rw [← zpow_natCast, ← zpow_add₀ two_ne_zero, Int.sub_add_cancel]
  have half : (2 - (k : ℤ) - 1) = 1 - k := by omega
  have quarter : (2 - (k : ℤ) - 2) = 0 - k := by omega
  constructor <;>
    simp only [Binary.fraction, Binary.halfGaps, Binary.upperMiddle, Binary.lowerMiddle, Binary.value, Nat.pow_eq,
      sub_sub_cancel, add_sub_cancel_left, small, if_false, Int.toNat_natCast]
  case positive => positivity
  case value =>
    rw [mul_assoc, scaled]
    push_cast
    ring
  case below =>
    cases narrow
    · simp only [Bool.false_eq_true, if_false]
      rw [half, scaled]
      norm_num
    · simp only [if_true]
      rw [quarter, scaled]
      norm_num
  case above =>
    rw [half, scaled]
    norm_num

/-- The fraction that a double is, with the halves of the gaps around it over the same denominator. -/
theorem hasFraction : b.HasFraction := by
  -- The exponent tells whether the quarter of a unit is whole.
  by_cases large : b.exponent ≥ 2
  · exact hasFraction_of_le b large
  · exact hasFraction_of_lt b large

variable {b}

/-- The middle below a double that is not zero is not negative. -/
theorem lowerMiddle_nonneg (some_mantissa : 0 < b.mantissa) : 0 ≤ b.lowerMiddle := by
  -- A significand from one on makes the value at least one unit, and the middle is no further below than a unit.
  have whole : (1 : ℚ) ≤ b.mantissa := by exact_mod_cast some_mantissa
  have unit := two_zpow_pos b.exponent
  have power : (2 : ℚ) ^ (b.exponent - if b.narrowBelow then 2 else 1) ≤ 2 ^ b.exponent :=
    zpow_le_zpow_right₀ one_le_two (by split <;> omega)
  have least : 1 * 2 ^ b.exponent ≤ b.value := mul_le_mul_of_nonneg_right whole unit.le
  unfold Binary.lowerMiddle
  linarith

/-- A decimal over the denominator of a double, and the factor that makes both sides whole. -/
theorem exists_scale (den candidate : Nat) (power : Int) :
    ∃ unit : Nat, 0 < unit ∧ (if power ≥ 0 then 1 else 10 ^ (-power).toNat) = unit ∧
      ((if power ≥ 0 then candidate * 10 ^ power.toNat * den else candidate * den : Nat) : ℚ) =
        candidate * 10 ^ power * (den * unit) := by
  -- The factor is a power of ten where the decimal has a fraction.
  split
  · rename_i whole
    obtain ⟨k, rfl⟩ := Int.eq_ofNat_of_zero_le whole
    refine ⟨1, Nat.one_pos, rfl, ?_⟩
    push_cast
    rw [zpow_natCast, mul_one, Int.toNat_natCast]
  · rename_i broken
    obtain ⟨k, rfl⟩ := Int.exists_eq_neg_ofNat (Int.not_le.mp broken).le
    refine ⟨10 ^ k, by positivity, by rw [neg_neg, Int.toNat_natCast], ?_⟩
    push_cast
    rw [zpow_neg, zpow_natCast]
    field_simp

/-- A decimal reads back as a double exactly if it is rounded to it. -/
theorem readsBack_iff (some_mantissa : 0 < b.mantissa) (candidate : Nat) (power : Int) :
    b.readsBack candidate power = true ↔ b.RoundsFrom (candidate * 10 ^ power) := by
  obtain ⟨some_den, value, below, above⟩ := hasFraction b
  obtain ⟨unit, some_unit, isUnit, scaled⟩ := exists_scale b.fraction.2 candidate power
  have low : ((b.fraction.1 - b.halfGaps.1 : Nat) : ℚ) = b.lowerMiddle * b.fraction.2 := by
    -- The difference is not cut off, since the middle is not negative.
    have within : b.halfGaps.1 ≤ b.fraction.1 := by
      have nonneg : 0 ≤ b.lowerMiddle * b.fraction.2 :=
        mul_nonneg (lowerMiddle_nonneg some_mantissa) (Nat.cast_nonneg _)
      have cast : (b.halfGaps.1 : ℚ) ≤ b.fraction.1 := by linarith
      exact_mod_cast cast
    rw [Nat.cast_sub within, value, below]
    ring
  have high : ((b.fraction.1 + b.halfGaps.2 : Nat) : ℚ) = b.upperMiddle * b.fraction.2 := by
    rw [Nat.cast_add, value, above]
    ring
  have scale : (0 : ℚ) < b.fraction.2 * unit := by positivity
  unfold Binary.readsBack Binary.RoundsFrom
  simp only [Nat.pow_eq, isUnit, beq_iff_eq]
  generalize (if power ≥ 0 then candidate * 10 ^ power.toNat * b.fraction.2
    else candidate * b.fraction.2) = middle at *
  -- Both comparisons are those of the numbers, scaled.
  have lowCast : ((((b.fraction.1 - b.halfGaps.1) * unit : Nat)) : ℚ) = b.lowerMiddle * (b.fraction.2 * unit) := by
    rw [Nat.cast_mul, low, mul_assoc]
  have highCast : ((((b.fraction.1 + b.halfGaps.2) * unit : Nat)) : ℚ) = b.upperMiddle * (b.fraction.2 * unit) := by
    rw [Nat.cast_mul, high, mul_assoc]
  split
  · rw [Bool.and_eq_true, decide_eq_true_eq, decide_eq_true_eq]
    rw [← @Nat.cast_le ℚ, ← @Nat.cast_le ℚ, lowCast, highCast, scaled, mul_le_mul_iff_left₀ scale,
      mul_le_mul_iff_left₀ scale]
  · rw [Bool.and_eq_true, decide_eq_true_eq, decide_eq_true_eq]
    rw [← @Nat.cast_lt ℚ, ← @Nat.cast_lt ℚ, lowCast, highCast, scaled, mul_lt_mul_iff_left₀ scale,
      mul_lt_mul_iff_left₀ scale]

/-- The quotient of natural numbers is the whole part of their fraction. -/
theorem quotient_spec (num : Nat) {den : Nat} (some_den : 0 < den) :
    ((num / den : Nat) : ℚ) * den ≤ num ∧ (num : ℚ) < ((num / den : Nat) + 1) * den := by
  -- Division of natural numbers leaves less than the denominator.
  have low : num / den * den ≤ num := Nat.div_mul_le_self num den
  have high : num < (num / den + 1) * den := Nat.lt_mul_of_div_lt (Nat.lt_succ_self _) some_den
  exact ⟨by exact_mod_cast low, by exact_mod_cast high⟩

/-- A natural number below a power of ten is one less at most. -/
theorem add_one_le_of_lt {n length : Nat} (below : (n : ℚ) < 10 ^ (length : ℤ)) :
    (n : ℚ) + 1 ≤ 10 ^ (length : ℤ) := by
  -- The power is a natural number as well, so that the two are compared as such.
  rw [zpow_natCast] at below ⊢
  exact_mod_cast below

/-- The digits of its whole part tell the powers of ten that a fraction from one on lies between. -/
theorem between_of_le {num den : Nat} (some_den : 0 < den) (whole : den ≤ num) :
    (10 : ℚ) ^ (((Nat.toDigits 10 (num / den)).length : ℤ) - 1) * den ≤ num ∧
      (num : ℚ) < 10 ^ ((Nat.toDigits 10 (num / den)).length : ℤ) * den := by
  -- The whole part has the digits that are counted; what is left of the fraction adds less than one.
  have scale : (0 : ℚ) < den := by exact_mod_cast some_den
  obtain ⟨low, high⟩ := quotient_spec num some_den
  obtain ⟨least, most⟩ := between_powers_of_ten (Nat.div_pos whole some_den)
  constructor
  · exact (mul_le_mul_of_nonneg_right least scale.le).trans low
  · exact high.trans_le (mul_le_mul_of_nonneg_right (add_one_le_of_lt most) scale.le)

/-- A smaller fraction has as many zeros in front as its inverse has digits. -/
theorem between_of_lt {num den : Nat} (some_num : 0 < num) (broken : num < den) :
    (10 : ℚ) ^ (-((Nat.toDigits 10 ((den - 1) / num)).length : ℤ)) * den ≤ num ∧
      (num : ℚ) < 10 ^ (-((Nat.toDigits 10 ((den - 1) / num)).length : ℤ) + 1) * den := by
  have scale : (0 : ℚ) < num := by exact_mod_cast some_num
  -- The whole part of the inverse is bounded by taking one off the denominator, which makes the bounds strict.
  have low : (den - 1) / num * num < den := by
    have within := Nat.div_mul_le_self (den - 1) num
    omega
  have high : den ≤ ((den - 1) / num + 1) * num := by
    have beyond := Nat.lt_mul_of_div_lt (Nat.lt_add_one ((den - 1) / num)) some_num
    omega
  obtain ⟨least, most⟩ := between_powers_of_ten (Nat.div_pos (show num ≤ den - 1 by omega) some_num)
  have next := add_one_le_of_lt most
  generalize (Nat.toDigits 10 ((den - 1) / num)).length = length at *
  generalize (den - 1) / num = q at *
  constructor
  · rw [zpow_neg, inv_mul_le_iff₀ (by positivity)]
    calc (den : ℚ) ≤ (q + 1) * num := by exact_mod_cast high
      _ ≤ 10 ^ (length : ℤ) * num := mul_le_mul_of_nonneg_right next scale.le
  · rw [show -(length : ℤ) + 1 = -(length - 1) by omega, zpow_neg, lt_inv_mul_iff₀ (by positivity)]
    calc 10 ^ ((length : ℤ) - 1) * (num : ℚ) ≤ q * num := mul_le_mul_of_nonneg_right least scale.le
      _ < den := by exact_mod_cast low

/-- A double lies between the powers of ten that its leading digit tells. -/
theorem leadingPower_spec (some_mantissa : 0 < b.mantissa) :
    10 ^ b.leadingPower ≤ b.value ∧ b.value < 10 ^ (b.leadingPower + 1) := by
  obtain ⟨some_den, value, -, -⟩ := hasFraction b
  have some_value : 0 < b.value := by
    have whole : (0 : ℚ) < b.mantissa := by exact_mod_cast some_mantissa
    exact mul_pos whole (two_zpow_pos _)
  unfold Binary.leadingPower
  rcases parts : b.fraction with ⟨num, den⟩
  rw [parts] at some_den value
  dsimp only at some_den value ⊢
  have scale : (0 : ℚ) < den := by exact_mod_cast some_den
  -- From one on the digits of the whole part count, below one those of the inverse.
  split
  · rename_i whole
    obtain ⟨low, high⟩ := between_of_le some_den whole
    rw [value] at low high
    rw [Int.sub_add_cancel]
    exact ⟨le_of_mul_le_mul_right low scale, lt_of_mul_lt_mul_right high scale.le⟩
  · rename_i broken
    have some_num : 0 < num := by
      have cast : (0 : ℚ) < num := value ▸ mul_pos some_value scale
      exact_mod_cast cast
    obtain ⟨low, high⟩ := between_of_lt some_num (Nat.lt_of_not_le broken)
    rw [value] at low high
    exact ⟨le_of_mul_le_mul_right low scale, lt_of_mul_lt_mul_right high scale.le⟩

/-- The neighbours of a double on a decimal grid are the two points that it lies between. -/
theorem neighbours_spec (power : Int) :
    (b.neighbours power).2 = (b.neighbours power).1 + 1 ∧
      ((b.neighbours power).1 : ℚ) * 10 ^ power ≤ b.value ∧
      b.value < (((b.neighbours power).1 : ℚ) + 1) * 10 ^ power := by
  obtain ⟨some_den, value, -, -⟩ := hasFraction b
  have scale : (0 : ℚ) < b.fraction.2 := by exact_mod_cast some_den
  refine ⟨rfl, ?_⟩
  unfold Binary.neighbours
  simp only [Nat.pow_eq]
  generalize b.fraction.1 = num at *
  generalize b.fraction.2 = den at *
  -- The quotient is taken where the power of ten is whole, and scaled back for the bounds.
  split
  · rename_i whole
    obtain ⟨k, rfl⟩ := Int.eq_ofNat_of_zero_le whole
    obtain ⟨low, high⟩ := quotient_spec num (show 0 < den * 10 ^ k by positivity)
    rw [Int.toNat_natCast, zpow_natCast]
    push_cast at low high
    rw [value] at low high
    exact ⟨le_of_mul_le_mul_right (by linarith) scale, lt_of_mul_lt_mul_right (by linarith) scale.le⟩
  · rename_i broken
    obtain ⟨k, rfl⟩ := Int.exists_eq_neg_ofNat (Int.not_le.mp broken).le
    obtain ⟨low, high⟩ := quotient_spec (num * 10 ^ k) some_den
    push_cast at low high
    rw [value] at low high
    rw [neg_neg, Int.toNat_natCast, zpow_neg, zpow_natCast, mul_inv_le_iff₀ (by positivity),
      lt_mul_inv_iff₀ (by positivity)]
    exact ⟨le_of_mul_le_mul_right (by linarith) scale, lt_of_mul_lt_mul_right (by linarith) scale.le⟩

/-- The power of ten on whose multiples the double has a number of digits. -/
def Binary.grid (b : Binary) (count : Nat) : Int := b.leadingPower - count + 1

/-- The last of these multiples that is not above the double. -/
def Binary.gridPoint (b : Binary) (count : Nat) : Nat := (b.neighbours (b.grid count)).1

/-- The double lies between that multiple and the next one. -/
theorem gridPoint_spec (count : Nat) :
    (b.gridPoint count : ℚ) * 10 ^ b.grid count ≤ b.value ∧
      b.value < ((b.gridPoint count + 1 : Nat) : ℚ) * 10 ^ b.grid count := by
  -- The point was chosen as the lower neighbour on the grid.
  rw [Nat.cast_add, Nat.cast_one]
  exact (neighbours_spec _).2

variable (b) in
/-- What is found is a neighbour on the grid that reads back, and none only if neither does. -/
theorem withDigits?_cases (count : Nat) :
    (b.readsBack (b.gridPoint count) (b.grid count) = true ∧
        b.withDigits? count = some (b.gridPoint count, b.grid count)) ∨
      (b.readsBack (b.gridPoint count + 1) (b.grid count) = true ∧
        b.withDigits? count = some (b.gridPoint count + 1, b.grid count)) ∨
      b.readsBack (b.gridPoint count) (b.grid count) = false ∧
        b.readsBack (b.gridPoint count + 1) (b.grid count) = false ∧ b.withDigits? count = none := by
  have neighbours : b.neighbours (b.grid count) = (b.gridPoint count, b.gridPoint count + 1) := rfl
  unfold Binary.withDigits?
  rw [← Binary.grid]
  dsimp only
  rw [neighbours]
  dsimp only
  cases isLow : b.readsBack (b.gridPoint count) (b.grid count) with
  | true =>
    cases isHigh : b.readsBack (b.gridPoint count + 1) (b.grid count) with
    | true =>
      -- The nearer one is taken, and of two that are as near the even one.
      dsimp only
      split
      · exact .inl ⟨rfl, rfl⟩
      · split
        · exact .inr (.inl ⟨rfl, rfl⟩)
        · split
          · exact .inl ⟨rfl, rfl⟩
          · exact .inr (.inl ⟨rfl, rfl⟩)
    | false => exact .inl ⟨rfl, rfl⟩
  | false =>
    cases isHigh : b.readsBack (b.gridPoint count + 1) (b.grid count) with
    | true => exact .inr (.inl ⟨rfl, rfl⟩)
    | false => exact .inr (.inr ⟨rfl, rfl, rfl⟩)

/-- A power of ten on the grid for a number of digits. -/
theorem pow_mul_grid (digits count : Nat) :
    ((10 ^ digits : Nat) : ℚ) * 10 ^ b.grid count = 10 ^ (b.leadingPower + (digits - count + 1)) := by
  -- The grid starts as far below the leading digit as there are digits to be kept.
  rw [Nat.cast_pow, Nat.cast_ofNat, ← zpow_natCast, ← zpow_add₀ (by norm_num)]
  congr 1
  unfold Binary.grid
  omega

/-- One digit fewer is in front of the grid where the double has its leading digit. -/
theorem pow_pred_mul_grid {count : Nat} (some_digit : 0 < count) :
    ((10 ^ (count - 1) : Nat) : ℚ) * 10 ^ b.grid count = 10 ^ b.leadingPower := by
  -- As many digits as the grid has places lead up to the leading digit.
  rw [pow_mul_grid, Nat.cast_sub (by omega), Nat.cast_one, sub_sub, add_comm (1 : ℤ), ← sub_sub, sub_self, zero_sub,
    neg_add_cancel, add_zero]

section Found

variable (some_mantissa : 0 < b.mantissa)

include some_mantissa

/-- A decimal that is found is one of the neighbours on its grid, and is rounded to the double. -/
theorem withDigits?_eq_some {count m : Nat} {power : Int} (found : b.withDigits? count = some (m, power)) :
    power = b.grid count ∧ (m = b.gridPoint count ∨ m = b.gridPoint count + 1) ∧ b.RoundsFrom (m * 10 ^ power) := by
  -- The lower neighbour is tried first; in both cases the test is that the decimal is read back.
  rcases withDigits?_cases b count with ⟨isLow, taken⟩ | ⟨isHigh, taken⟩ | ⟨-, -, none⟩
  · obtain ⟨rfl, rfl⟩ := Prod.mk.inj (Option.some.inj (taken.symm.trans found))
    exact ⟨rfl, .inl rfl, (readsBack_iff some_mantissa _ _).mp isLow⟩
  · obtain ⟨rfl, rfl⟩ := Prod.mk.inj (Option.some.inj (taken.symm.trans found))
    exact ⟨rfl, .inr rfl, (readsBack_iff some_mantissa _ _).mp isHigh⟩
  · rw [none] at found
    simp at found

/-- None is found only if neither neighbour is rounded to the double. -/
theorem withDigits?_eq_none {count : Nat} (none : b.withDigits? count = none) :
    ¬ b.RoundsFrom (b.gridPoint count * 10 ^ b.grid count) ∧
      ¬ b.RoundsFrom ((b.gridPoint count + 1 : Nat) * 10 ^ b.grid count) := by
  -- Each neighbour that were rounded to the double would have been taken.
  rw [← readsBack_iff some_mantissa, ← readsBack_iff some_mantissa]
  rcases withDigits?_cases b count with ⟨-, taken⟩ | ⟨-, taken⟩ | ⟨isLow, isHigh, -⟩
  · simp [none] at taken
  · simp [none] at taken
  · exact ⟨by simp [isLow], by simp [isHigh]⟩

/-- The multiples around a double have the number of digits, but for the next power of ten. -/
theorem gridPoint_digits {count : Nat} (some_digit : 0 < count) :
    10 ^ (count - 1) ≤ b.gridPoint count ∧ b.gridPoint count < 10 ^ count := by
  obtain ⟨least, most⟩ := leadingPower_spec some_mantissa
  obtain ⟨low, high⟩ := gridPoint_spec (b := b) count
  have unit : (0 : ℚ) < 10 ^ b.grid count := by positivity
  constructor
  · -- The multiple above the double is more than the power of ten in front.
    have above : ((10 ^ (count - 1) : Nat) : ℚ) * 10 ^ b.grid count <
        (b.gridPoint count + 1 : Nat) * 10 ^ b.grid count := by
      calc ((10 ^ (count - 1) : Nat) : ℚ) * 10 ^ b.grid count = 10 ^ b.leadingPower := pow_pred_mul_grid some_digit
        _ ≤ b.value := least
        _ < (b.gridPoint count + 1 : Nat) * 10 ^ b.grid count := high
    have order : 10 ^ (count - 1) < b.gridPoint count + 1 := by exact_mod_cast lt_of_mul_lt_mul_right above unit.le
    exact Nat.lt_succ_iff.mp order
  · have below : (b.gridPoint count : ℚ) * 10 ^ b.grid count < ((10 ^ count : Nat) : ℚ) * 10 ^ b.grid count := by
      calc (b.gridPoint count : ℚ) * 10 ^ b.grid count ≤ b.value := low
        _ < 10 ^ (b.leadingPower + 1) := most
        _ = ((10 ^ count : Nat) : ℚ) * 10 ^ b.grid count := by rw [pow_mul_grid, sub_self, zero_add]
    exact_mod_cast lt_of_mul_lt_mul_right below unit.le

omit some_mantissa in
/-- A decimal of no more digits is such a multiple, or it is below the leading digit of the double. -/
theorem multiple_or_below {count c : Nat} (few : c < 10 ^ count) (exponent : Int) :
    (∃ g : Nat, (c * 10 ^ exponent : ℚ) = g * 10 ^ b.grid count) ∨
      (c * 10 ^ exponent : ℚ) < 10 ^ b.leadingPower := by
  rcases le_or_gt (b.grid count) exponent with coarse | fine
  · -- On a coarser grid its points are points of the finer one.
    obtain ⟨k, rfl⟩ : ∃ k : Nat, exponent = k + b.grid count := ⟨(exponent - b.grid count).toNat, by omega⟩
    refine .inl ⟨c * 10 ^ k, ?_⟩
    rw [zpow_add₀ (by norm_num), zpow_natCast]
    push_cast
    ring
  · refine .inr ?_
    have cast : (c : ℚ) < ((10 ^ count : Nat) : ℚ) := by exact_mod_cast few
    calc (c * 10 ^ exponent : ℚ) < ((10 ^ count : Nat) : ℚ) * 10 ^ exponent :=
          mul_lt_mul_of_pos_right cast (by positivity)
      _ = 10 ^ ((count : ℤ) + exponent) := by
          rw [Nat.cast_pow, Nat.cast_ofNat, ← zpow_natCast, zpow_add₀ (by norm_num)]
      _ ≤ 10 ^ b.leadingPower := zpow_le_zpow_right₀ (by norm_num) (by unfold Binary.grid at fine; omega)

/-- If a decimal of no more digits is rounded to a double, one with so many is found. -/
theorem withDigits?_ne_none {count c : Nat} {exponent : Int} (some_digit : 0 < count)
    (few : c < 10 ^ count) (rounds : b.RoundsFrom (c * 10 ^ exponent)) : b.withDigits? count ≠ none := by
  intro none
  obtain ⟨notLow, notHigh⟩ := withDigits?_eq_none some_mantissa none
  obtain ⟨low, high⟩ := gridPoint_spec (b := b) count
  have unit : (0 : ℚ) < 10 ^ b.grid count := by positivity
  have itself := b.roundsFrom_value
  -- The multiple on the side of the decimal is between it and the double.
  rcases multiple_or_below (b := b) few exponent with ⟨g, same⟩ | small
  · rw [same] at rounds
    rcases Nat.lt_or_ge (b.gridPoint count) g with above | below
    · refine notHigh (itself.convex rounds high.le (mul_le_mul_of_nonneg_right ?_ unit.le))
      exact_mod_cast above
    · refine notLow (rounds.convex itself (mul_le_mul_of_nonneg_right ?_ unit.le) low)
      exact_mod_cast below
  · refine notLow (rounds.convex itself (small.le.trans ?_) low)
    have leading := (gridPoint_digits some_mantissa some_digit).1
    calc (10 : ℚ) ^ b.leadingPower = ((10 ^ (count - 1) : Nat) : ℚ) * 10 ^ b.grid count :=
          (pow_pred_mul_grid some_digit).symm
      _ ≤ b.gridPoint count * 10 ^ b.grid count := mul_le_mul_of_nonneg_right (by exact_mod_cast leading) unit.le

variable (short : b.mantissa < 2 ^ 53) (narrow : b.narrowBelow = true → b.mantissa = 2 ^ 52)

include short narrow

/-- Seventeen digits are always enough. -/
theorem withDigits?_seventeen_ne_none : b.withDigits? 17 ≠ none := by
  intro none
  obtain ⟨notLow, notHigh⟩ := withDigits?_eq_none some_mantissa none
  obtain ⟨low, high⟩ := gridPoint_spec (b := b) 17
  have leading := (leadingPower_spec some_mantissa).1
  have unit := two_zpow_pos b.exponent
  have step : (10 : ℚ) ^ b.leadingPower = ((10 ^ 16 : Nat) : ℚ) * 10 ^ b.grid 17 :=
    (pow_pred_mul_grid (show 0 < 17 by decide)).symm
  have upper : b.upperMiddle = b.value + 2 ^ b.exponent / 2 := by
    rw [Binary.upperMiddle, zpow_sub_one₀ two_ne_zero, div_eq_mul_inv]
  have significand : (b.mantissa : ℚ) + 1 ≤ 2 ^ 53 := by exact_mod_cast short
  rw [step] at leading
  push_cast at high notHigh leading
  by_cases near : (b.gridPoint 17 + 1) * 10 ^ b.grid 17 < b.value + 2 ^ b.exponent / 2
  · exact notHigh (Binary.roundsFrom_of_lt (b.lowerMiddle_lt_value.trans high) (upper ▸ near))
  · -- The multiple above is beyond the middle, so the one below is near.
    have wide : b.narrowBelow = false := by
      rw [← Bool.not_eq_true]
      intro isNarrow
      have even : (b.mantissa : ℚ) = 2 ^ 52 := by exact_mod_cast narrow isNarrow
      -- There the gap above is so small against the double that the multiple above is near.
      rw [Binary.value, even] at leading low near
      linarith
    have lower : b.lowerMiddle = b.value - 2 ^ b.exponent / 2 := by
      rw [Binary.lowerMiddle, wide, if_neg (by simp), zpow_sub_one₀ two_ne_zero, div_eq_mul_inv]
    refine notLow (Binary.roundsFrom_of_lt ?_ (low.trans_lt b.value_lt_upperMiddle))
    rw [lower]
    have bound : b.value ≤ (2 ^ 53 - 1) * 2 ^ b.exponent :=
      mul_le_mul_of_nonneg_right (by linarith) unit.le
    linarith

/-- The shortest decimal of a double is the first one that is found. -/
theorem shortest_spec :
    ∃ count, 0 < count ∧ b.withDigits? count = some b.shortest ∧
      ∀ fewer, 0 < fewer → fewer < count → b.withDigits? fewer = none := by
  have enough := withDigits?_seventeen_ne_none some_mantissa short narrow
  unfold Binary.shortest
  rw [if_neg (by simpa using some_mantissa.ne')]
  cases found : (List.range 17).findSome? fun n => b.withDigits? (n + 1) with
  | none => exact absurd (List.findSome?_eq_none_iff.mp found 16 (by simp)) enough
  | some decimal =>
    obtain ⟨before, n, behind, split, here, earlier⟩ := List.findSome?_eq_some_iff.mp found
    refine ⟨n + 1, Nat.succ_pos n, here, fun fewer some_digit less => ?_⟩
    obtain ⟨k, rfl⟩ : ∃ k, fewer = k + 1 := ⟨fewer - 1, by omega⟩
    -- What stands before a number of a range are the smaller ones.
    have place : (List.range 17)[before.length]? = some n := by rw [split]; simp
    obtain ⟨inside, rfl⟩ : before.length < 17 ∧ before.length = n := by
      simpa [List.getElem?_eq_some_iff] using place
    have there : (List.range 17)[k]? = some k := List.getElem?_range (by omega)
    rw [split, List.getElem?_append_left (by omega)] at there
    exact earlier k (List.mem_of_getElem? there)

end Found

end Fraction

end PlanLint
