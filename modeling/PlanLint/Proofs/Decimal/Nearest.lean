import PlanLint.Decimal.Nearest
import PlanLint.Proofs.Decimal.Double

/-! A fraction is read as the double that it is rounded to. -/

namespace PlanLint

/-- A quotient is rounded by no more than a half, and to an even number where it is just a half. -/
theorem roundDivEven_near (num : Nat) {den : Nat} (positive : 0 < den) :
    2 * (roundDivEven num den * den) ≤ 2 * num + den ∧ 2 * num ≤ 2 * (roundDivEven num den * den) + den ∧
      (roundDivEven num den % 2 = 1 → 2 * (roundDivEven num den * den) ≠ 2 * num + den ∧
        2 * num ≠ 2 * (roundDivEven num den * den) + den) := by
  -- The number is the whole part, its rest, and the rest is compared with half the denominator.
  have split := Nat.div_add_mod' num den
  have next := Nat.succ_mul (num / den) den
  have rest := Nat.mod_lt num positive
  unfold roundDivEven
  dsimp only
  split
  · omega
  · split
    · rw [← Nat.succ_eq_add_one]
      omega
    · -- Just a half goes to the even one of the two.
      rcases Nat.mod_two_eq_zero_or_one (num / den) with even | odd
      · rw [even, Nat.add_zero]
        omega
      · rw [odd, ← Nat.succ_eq_add_one]
        omega

/-- What a number is rounded to is no more than a half away, and less if it is odd. -/
structure IsRounded (m : Nat) (x : ℚ) : Prop where
  low : (m - 1 / 2 : ℚ) ≤ x
  high : x ≤ m + 1 / 2
  odd : m % 2 = 1 → (m - 1 / 2 : ℚ) < x ∧ x < m + 1 / 2

/-- The rounded quotient is what the quotient as a number is rounded to. -/
theorem roundDivEven_spec (num : Nat) {den : Nat} (positive : 0 < den) (x : ℚ) (quotient : x * den = num) :
    IsRounded (roundDivEven num den) x := by
  obtain ⟨low, high, odd⟩ := roundDivEven_near num positive
  generalize roundDivEven num den = m at *
  have scale : (0 : ℚ) < den := by exact_mod_cast positive
  have low' : 2 * ((m : ℚ) * den) ≤ 2 * num + den := by exact_mod_cast low
  have high' : 2 * (num : ℚ) ≤ 2 * (m * den) + den := by exact_mod_cast high
  rw [← quotient] at low' high'
  -- Each bound is one of the natural numbers, divided by the denominator.
  refine ⟨?_, ?_, fun isOdd => ?_⟩
  · exact le_of_mul_le_mul_right (by linarith) scale
  · exact le_of_mul_le_mul_right (by linarith) scale
  · obtain ⟨low, high⟩ := odd isOdd
    have low' : 2 * ((m : ℚ) * den) ≠ 2 * num + den := by exact_mod_cast low
    have high' : 2 * (num : ℚ) ≠ 2 * (m * den) + den := by exact_mod_cast high
    rw [← quotient] at low' high'
    constructor
    · exact lt_of_mul_lt_mul_right (lt_of_le_of_ne (by linarith) (fun same => low' (by linarith))) scale.le
    · exact lt_of_mul_lt_mul_right (lt_of_le_of_ne (by linarith) (fun same => high' (by linarith))) scale.le

section Units

variable {m k : Nat} {x : ℚ}

/-- In the least units a number of fewer bits is rounded to the double with that significand. -/
theorem IsRounded.roundsFrom_least (rounded : IsRounded m x) (few : m < 2 ^ 52) :
    (doubleAt m).RoundsFrom (x * 2 ^ (((0 : Nat) : ℤ) - 1074)) := by
  -- Below the first full significand the number of the double is its significand, and the gaps are even.
  rw [doubleAt_of_lt few]
  refine (Binary.roundsFrom_units ⟨m, -1074, false⟩ x).mpr ?_
  simp only [Bool.false_eq_true, if_false]
  split
  · exact ⟨rounded.low, rounded.high⟩
  · exact rounded.odd (by omega)

/-- A number of 53 bits is rounded to the double with that significand, if its units are the least ones or it really
has so many bits. -/
theorem IsRounded.roundsFrom_full (rounded : IsRounded m x) (full : 2 ^ 52 ≤ m) (short : m < 2 ^ 53)
    (least : k = 0 ∨ 2 ^ 52 ≤ x) : (doubleAt (k * 2 ^ 52 + m)).RoundsFrom (x * 2 ^ ((k : ℤ) - 1074)) := by
  rw [doubleAt_full k full short]
  refine (Binary.roundsFrom_units ⟨m, k - 1074, m == 2 ^ 52 && k > 0⟩ x).mpr ?_
  dsimp only
  by_cases narrow : m = 2 ^ 52 ∧ k > 0
  · -- The next double below is nearer, but the number is not below this one.
    obtain ⟨rfl, some_⟩ := narrow
    have above : 2 ^ 52 ≤ x := least.resolve_left (by omega)
    have high := rounded.high
    simp only [beq_self_eq_true, Bool.true_and, decide_eq_true_eq, some_, if_true]
    rw [if_pos (by decide)]
    push_cast at high ⊢
    exact ⟨by linarith, high⟩
  · have regular : (m == 2 ^ 52 && decide (k > 0)) = false := by simpa using narrow
    simp only [regular, Bool.false_eq_true, if_false]
    split
    · exact ⟨rounded.low, rounded.high⟩
    · exact rounded.odd (by omega)

/-- A number that is rounded up to one bit more is rounded to the double with half of that significand. -/
theorem IsRounded.roundsFrom_carried (rounded : IsRounded m x) (carried : m = 2 ^ 53) (below : x < 2 ^ 53) :
    (doubleAt (k * 2 ^ 52 + m)).RoundsFrom (x * 2 ^ ((k : ℤ) - 1074)) := by
  subst carried
  rw [show k * 2 ^ 52 + 2 ^ 53 = (k + 1) * 2 ^ 52 + 2 ^ 52 by omega, doubleAt_full (k + 1) (by omega) (by omega)]
  -- Under the next power of two the number is half as many units.
  have units : x * 2 ^ ((k : ℤ) - 1074) = x / 2 * 2 ^ (((k + 1 : Nat) : ℤ) - 1074) := by
    have power : ((k + 1 : Nat) : ℤ) - 1074 = k - 1074 + 1 := by omega
    rw [power, zpow_add_one₀ two_ne_zero]
    ring
  have low := rounded.low
  rw [units]
  refine (Binary.roundsFrom_units ⟨2 ^ 52, ((k + 1 : Nat) : ℤ) - 1074, 2 ^ 52 == 2 ^ 52 && k + 1 > 0⟩ (x / 2)).mpr ?_
  simp only [beq_self_eq_true, Bool.true_and, decide_eq_true_eq, Nat.zero_lt_succ, gt_iff_lt, if_true]
  rw [if_pos (by decide)]
  push_cast at low ⊢
  exact ⟨by linarith, by linarith⟩

end Units

section Exponent

variable {num den : Nat} (some_num : 0 < num) (some_den : 0 < den)

/-- A fraction in units of a power of two, with the power on the side where it is whole. -/
theorem le_scaled_iff (num den : Nat) (e : ℤ) (d : Nat) :
    ((den : ℚ) * 2 ^ ((d : ℤ) + e) ≤ num) ↔
      if e ≥ 0 then num ≥ den * Nat.pow 2 (d + e.toNat) else num * Nat.pow 2 (-e).toNat ≥ den * Nat.pow 2 d := by
  simp only [Nat.pow_eq]
  -- A power that is not negative belongs to the denominator, any other to the numerator.
  split
  · rename_i whole
    obtain ⟨k, rfl⟩ := Int.eq_ofNat_of_zero_le whole
    rw [← Int.natCast_add, zpow_natCast]
    exact_mod_cast Iff.rfl
  · rename_i broken
    obtain ⟨k, rfl⟩ := Int.exists_eq_neg_ofNat (Int.not_le.mp broken).le
    rw [zpow_add₀ two_ne_zero, zpow_neg, zpow_natCast, zpow_natCast, neg_neg, Int.toNat_natCast, ← mul_assoc,
      ← div_eq_mul_inv, div_le_iff₀ (by positivity)]
    exact_mod_cast Iff.rfl

include some_num some_den

/-- A fraction lies between the powers of two that the lengths of its parts tell. -/
theorem between_powers :
    (den : ℚ) * 2 ^ ((num.log2 : ℤ) - den.log2 - 1) ≤ num ∧
      (num : ℚ) < den * 2 ^ ((num.log2 : ℤ) - den.log2 + 1) := by
  have numLow : ((2 ^ num.log2 : Nat) : ℚ) ≤ num := by exact_mod_cast Nat.log2_self_le (by omega)
  have numHigh : (num : ℚ) < (2 ^ (num.log2 + 1) : Nat) := by exact_mod_cast Nat.lt_log2_self
  have denLow : ((2 ^ den.log2 : Nat) : ℚ) ≤ den := by exact_mod_cast Nat.log2_self_le (by omega)
  have denHigh : (den : ℚ) < (2 ^ (den.log2 + 1) : Nat) := by exact_mod_cast Nat.lt_log2_self
  push_cast at numLow numHigh denLow denHigh
  rw [← zpow_natCast] at numLow numHigh denLow denHigh
  push_cast at numLow numHigh denLow denHigh
  -- The lower bound takes the lower one of the numerator and the upper one of the denominator.
  constructor
  · calc (den : ℚ) * 2 ^ ((num.log2 : ℤ) - den.log2 - 1)
        ≤ 2 ^ ((den.log2 : ℤ) + 1) * 2 ^ ((num.log2 : ℤ) - den.log2 - 1) :=
          mul_le_mul_of_nonneg_right denHigh.le (two_zpow_pos _).le
      _ = 2 ^ (num.log2 : ℤ) := by rw [← zpow_add₀ two_ne_zero]; congr 1; omega
      _ ≤ num := numLow
  · calc (num : ℚ) < 2 ^ ((num.log2 : ℤ) + 1) := numHigh
      _ = 2 ^ (den.log2 : ℤ) * 2 ^ ((num.log2 : ℤ) - den.log2 + 1) := by
          rw [← zpow_add₀ two_ne_zero]; congr 1; omega
      _ ≤ den * 2 ^ ((num.log2 : ℤ) - den.log2 + 1) := mul_le_mul_of_nonneg_right denLow (two_zpow_pos _).le

/-- The exponent of a fraction is the one of a significand of 53 bits, unless that is too small. -/
theorem exists_exponent : ∃ e : ℤ, binaryExponent num den = max e (-1074) ∧
    (den : ℚ) * 2 ^ (52 + e) ≤ num ∧ (num : ℚ) < den * 2 ^ (53 + e) := by
  obtain ⟨low, high⟩ := between_powers some_num some_den
  -- The guess is tested by comparing the fraction with the least significand of 53 bits.
  have fits := le_scaled_iff num den ((num.log2 : ℤ) - den.log2 - 52) 52
  rw [show ((52 : Nat) : ℤ) + ((num.log2 : ℤ) - den.log2 - 52) = num.log2 - den.log2 by omega] at fits
  have exponent : binaryExponent num den =
      max (if (den : ℚ) * 2 ^ ((num.log2 : ℤ) - den.log2) ≤ num then (num.log2 : ℤ) - den.log2 - 52
        else (num.log2 : ℤ) - den.log2 - 52 - 1) (-1074) := by
    unfold binaryExponent
    simp only [fits]
  -- If the test fails, the fraction has its 53 bits one power further down.
  rw [exponent]
  refine ⟨_, rfl, ?_⟩
  split
  · rename_i exact_
    refine ⟨?_, ?_⟩
    · rwa [show 52 + ((num.log2 : ℤ) - den.log2 - 52) = num.log2 - den.log2 by omega]
    · rwa [show 53 + ((num.log2 : ℤ) - den.log2 - 52) = num.log2 - den.log2 + 1 by omega]
  · rename_i large
    refine ⟨?_, ?_⟩
    · rwa [show 52 + ((num.log2 : ℤ) - den.log2 - 52 - 1) = num.log2 - den.log2 - 1 by omega]
    · rw [show 53 + ((num.log2 : ℤ) - den.log2 - 52 - 1) = num.log2 - den.log2 by omega]
      exact lt_of_not_ge large

/-- In units of its exponent a fraction has 53 bits in front of the point, or fewer and the exponent is the least. -/
theorem binaryExponent_spec : -1074 ≤ binaryExponent num den ∧
    ∀ x : ℚ, (num : ℚ) = x * (2 ^ binaryExponent num den * den) →
      x < 2 ^ 53 ∧ (binaryExponent num den = -1074 ∨ 2 ^ 52 ≤ x) := by
  obtain ⟨e, exponent, low, high⟩ := exists_exponent some_num some_den
  have scale : (0 : ℚ) < den := by exact_mod_cast some_den
  refine ⟨exponent ▸ le_max_right _ _, fun x quotient => ?_⟩
  have unit : (0 : ℚ) < 2 ^ binaryExponent num den * den := mul_pos (two_zpow_pos _) scale
  -- The exponent is that of 53 bits, or the least one, in whose units there are fewer.
  rcases le_total (-1074) e with normal | small
  · obtain rfl : binaryExponent num den = e := exponent.trans (max_eq_left normal)
    rw [quotient, zpow_add₀ two_ne_zero] at low high
    refine ⟨lt_of_mul_lt_mul_right ?_ unit.le, .inr (le_of_mul_le_mul_right ?_ unit)⟩
    · linarith [high]
    · linarith [low]
  · have least : binaryExponent num den = -1074 := exponent.trans (max_eq_right small)
    refine ⟨lt_of_mul_lt_mul_right ?_ unit.le, .inl least⟩
    calc x * (2 ^ binaryExponent num den * den) = num := quotient.symm
      _ < den * 2 ^ (53 + e) := high
      _ ≤ den * 2 ^ (53 + binaryExponent num den) :=
          mul_le_mul_of_nonneg_left (zpow_le_zpow_right₀ one_le_two (by omega)) scale.le
      _ = 2 ^ 53 * (2 ^ binaryExponent num den * den) := by
          rw [zpow_add₀ two_ne_zero]
          generalize (2 : ℚ) ^ binaryExponent num den = unit
          norm_num
          ring

end Exponent

/-- The significand of the double that a fraction is rounded to. -/
def roundedSignificand (num den : Nat) : Nat :=
  if binaryExponent num den ≥ 0 then roundDivEven num (den * Nat.pow 2 (binaryExponent num den).toNat)
  else roundDivEven (num * Nat.pow 2 (-binaryExponent num den).toNat) den

/-- The number of that double. -/
def nearestNumber (num den : Nat) : Nat :=
  (binaryExponent num den + 1074).toNat * 2 ^ 52 + roundedSignificand num den

section Rounded

variable {num den : Nat} (some_num : 0 < num) (some_den : 0 < den)

include some_den

/-- The significand of a fraction is the fraction in units of its exponent, rounded. -/
theorem roundedSignificand_near (x : ℚ) (quotient : (num : ℚ) = x * (2 ^ binaryExponent num den * den)) :
    IsRounded (roundedSignificand num den) x := by
  unfold roundedSignificand
  simp only [Nat.pow_eq]
  generalize binaryExponent num den = e at quotient ⊢
  -- The unit is multiplied into the side where it is a whole number.
  split
  · rename_i whole
    obtain ⟨k, rfl⟩ := Int.eq_ofNat_of_zero_le whole
    refine roundDivEven_spec num (by positivity) x ?_
    rw [quotient, zpow_natCast, Int.toNat_natCast]
    push_cast
    ring
  · rename_i broken
    obtain ⟨k, rfl⟩ := Int.exists_eq_neg_ofNat (Int.not_le.mp broken).le
    refine roundDivEven_spec _ some_den x ?_
    push_cast
    rw [quotient, zpow_neg, zpow_natCast, neg_neg, Int.toNat_natCast]
    field_simp

include some_num

/-- A fraction in units of its exponent, with its significand. -/
theorem exists_units :
    ∃ x : ℚ, (num / den : ℚ) = x * 2 ^ binaryExponent num den ∧ IsRounded (roundedSignificand num den) x ∧
      x < 2 ^ 53 ∧ (binaryExponent num den = -1074 ∨ 2 ^ 52 ≤ x) := by
  -- The significand is rounded from the fraction measured in units of its exponent.
  have scale : (den : ℚ) ≠ 0 := by exact_mod_cast some_den.ne'
  refine ⟨(num / den : ℚ) / 2 ^ binaryExponent num den, by field_simp, ?_⟩
  have whole : (num : ℚ) = num / den / 2 ^ binaryExponent num den * (2 ^ binaryExponent num den * den) := by
    field_simp
  exact ⟨roundedSignificand_near some_den _ whole, (binaryExponent_spec some_num some_den).2 _ whole⟩

/-- A significand that is not full stands at the least exponent. -/
theorem binaryExponent_of_lt (few : roundedSignificand num den < 2 ^ 52) : binaryExponent num den = -1074 := by
  obtain ⟨x, -, rounded, -, least | many⟩ := exists_units some_num some_den
  · exact least
  · -- A fraction of 53 bits in its units is not rounded to fewer.
    exfalso
    have bound : ((2 ^ 52 : Nat) : ℚ) < roundedSignificand num den + 1 := by push_cast; linarith [rounded.high]
    have : 2 ^ 52 < roundedSignificand num den + 1 := by exact_mod_cast bound
    omega

/-- A significand has no more than 53 bits, but for the next power of two. -/
theorem roundedSignificand_le : roundedSignificand num den ≤ 2 ^ 53 := by
  -- The fraction is less than 53 bits in its units, and rounding adds no more than a half.
  obtain ⟨x, -, rounded, below, -⟩ := exists_units some_num some_den
  have bound : (roundedSignificand num den : ℚ) < (2 ^ 53 : Nat) + 1 := by push_cast; linarith [rounded.low]
  exact Nat.lt_succ_iff.mp (by exact_mod_cast bound)

/-- A fraction is rounded to the double with its number. -/
theorem roundsFrom_nearestNumber : (doubleAt (nearestNumber num den)).RoundsFrom (num / den) := by
  obtain ⟨x, quotient, rounded, below, full⟩ := exists_units some_num some_den
  have normal := (binaryExponent_spec some_num some_den).1
  have subnormal := binaryExponent_of_lt some_num some_den
  have most := roundedSignificand_le some_num some_den
  unfold nearestNumber
  rw [quotient]
  generalize roundedSignificand num den = m at *
  generalize binaryExponent num den = e at *
  obtain ⟨k, rfl⟩ : ∃ k : Nat, e = k - 1074 := ⟨(e + 1074).toNat, by omega⟩
  have least : k = 0 ∨ 2 ^ 52 ≤ x := full.imp_left fun same => by omega
  rw [Int.sub_add_cancel, Int.toNat_natCast]
  rcases Nat.lt_or_ge m (2 ^ 52) with few | full
  · -- The significand is not full, so the exponent is the least one.
    obtain rfl : k = 0 := by
      have exponent := subnormal few
      omega
    rw [Nat.zero_mul, Nat.zero_add]
    exact rounded.roundsFrom_least few
  rcases Nat.lt_or_ge m (2 ^ 53) with short | long
  · exact rounded.roundsFrom_full full short least
  · exact rounded.roundsFrom_carried (Nat.le_antisymm most long) below

/-- The bits of the double that is read are its number, or those of the infinite double behind the finite ones. -/
theorem toNat_nearestBits : (nearestBits num den).toNat = min (nearestNumber num den) infiniteNumber := by
  have significand : (if binaryExponent num den ≥ 0 then
      roundDivEven num (den * Nat.pow 2 (binaryExponent num den).toNat)
      else roundDivEven (num * Nat.pow 2 (-binaryExponent num den).toNat) den) = roundedSignificand num den := rfl
  unfold nearestBits
  rw [if_neg (by simp; omega)]
  dsimp only
  rw [significand]
  have least := binaryExponent_of_lt some_num some_den
  have most : roundedSignificand num den ≤ 2 ^ 53 := roundedSignificand_le some_num some_den
  unfold nearestNumber infiniteNumber
  simp only [Nat.pow_eq]
  generalize roundedSignificand num den = m at *
  split
  · rename_i few
    have zero : (-1074 + 1074 : ℤ).toNat = 0 := by decide
    -- A significand that is not full is its own number.
    rw [least few, zero, Nat.zero_mul, Nat.zero_add, Nat.min_eq_left (by omega)]
    exact UInt64.toNat_ofNat_of_lt' (show m < 2 ^ 64 by omega)
  · split
    · rename_i large
      -- Behind the finite doubles there is only the infinite one.
      rw [Nat.min_eq_right large]
      rfl
    · rename_i small
      rw [Nat.min_eq_left (by omega)]
      exact UInt64.toNat_ofNat_of_lt' (show _ < 2 ^ 64 by omega)

end Rounded

end PlanLint
