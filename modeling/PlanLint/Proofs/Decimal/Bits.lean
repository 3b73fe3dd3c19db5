import Mathlib
import PlanLint.Proofs.Decimal.Nearest

/-! The bits of floating-point numbers that are not negative, and of those that decimals are read as. -/

namespace PlanLint

open Float.Model (UnpackedFloat)

variable {bits : UInt64}

/-- The exponent field of a number that is no undefined one. -/
theorem unpackExponent_eq_iff :
    @UnpackedFloat.unpackExponent Float.Model.Format.binary64 bits.toBitVec = -1#11 ↔
      bits.toNat / 2 ^ 52 % 2048 = 2047 := by
  -- The field is cut out of the bits, and its eleven bits are all ones.
  rw [UnpackedFloat.unpackExponent_def, ← BitVec.toNat_inj, BitVec.extractLsb'_toNat]
  simp [Nat.shiftRight_eq_div_pow]

/-- The bits up to those of the infinite number are those of a number. -/
theorem valid_of_le (known : bits.toNat ≤ infiniteNumber) : Float.Model.Format.binary64.Valid bits.toBitVec where
  eq_packedNaN := by
    intro full some_
    -- An undefined number has the full exponent and some significand, so its bits are beyond the infinite ones.
    exfalso
    apply some_
    have exponent := unpackExponent_eq_iff.mp full
    rw [UnpackedFloat.unpackMantissa_def]
    apply BitVec.eq_of_toNat_eq
    rw [BitVec.extractLsb'_toNat]
    unfold infiniteNumber at known
    simp
    omega

/-- So a number made of them has them. -/
theorem toBits_ofBits (known : bits.toNat ≤ infiniteNumber) : (Float.ofBits bits).toBits = bits := by
  -- Packing what was unpacked is known to give the bits back, and bits are equal as bit vectors.
  have packed := UnpackedFloat.pack_unpack_of_valid (valid_of_le known)
  apply UInt64.toBitVec_inj.mp
  exact packed

/-- It is not undefined. -/
theorem isNaN_eq_false {x : Float} (known : x.toBits.toNat ≤ infiniteNumber) : x.isNaN = false := by
  rw [← Bool.not_eq_true]
  intro undefined
  -- There is one pattern of bits for what is undefined, and it is beyond the infinite one.
  have packed := (UnpackedFloat.isNaN_unpack_iff_of_valid x.toModel.valid).mp undefined
  have same : x.toBits.toNat = 0x7FF8000000000000 := by
    show x.toModel.toBits.toBitVec.toNat = _
    rw [packed]
    decide
  exact absurd (same ▸ known) (by decide)

/-- It is infinite where its bits are not those of a finite number. -/
theorem isInf_eq_false {x : Float} (finite : x.toBits.toNat < infiniteNumber) : x.isInf = false := by
  have exponent : ¬ @UnpackedFloat.unpackExponent Float.Model.Format.binary64 x.toBits.toBitVec = -1#11 := by
    rw [unpackExponent_eq_iff]
    unfold infiniteNumber at finite
    omega
  -- Only the full exponent field is unpacked as infinite.
  show (UnpackedFloat.unpack Float.Model.Format.binary64 x.toBits.toBitVec).isInf = false
  unfold UnpackedFloat.unpack
  dsimp only
  rw [if_neg exponent]
  split
  · split <;> rfl
  · rfl

section Decimal

variable {mantissa n : Nat} {exponent : Int} (some_mantissa : 0 < mantissa)

include some_mantissa

/-- A decimal as the fraction that is rounded. -/
theorem exists_fraction (exponent : Int) :
    ∃ num den : Nat, 0 < num ∧ 0 < den ∧ (num / den : ℚ) = mantissa * 10 ^ exponent ∧
      (if exponent ≥ 0 then nearestBits (mantissa * Nat.pow 10 exponent.toNat) 1
        else nearestBits mantissa (Nat.pow 10 (-exponent).toNat)) = nearestBits num den := by
  -- The power of ten is a part of the numerator or of the denominator, as its exponent has it.
  simp only [Nat.pow_eq]
  split
  · rename_i whole
    obtain ⟨k, rfl⟩ := Int.eq_ofNat_of_zero_le whole
    refine ⟨mantissa * 10 ^ k, 1, by positivity, Nat.one_pos, ?_, rfl⟩
    push_cast
    rw [zpow_natCast, div_one]
  · rename_i broken
    obtain ⟨k, rfl⟩ := Int.exists_eq_neg_ofNat (Int.not_le.mp broken).le
    refine ⟨mantissa, 10 ^ k, some_mantissa, by positivity, ?_, by rw [neg_neg, Int.toNat_natCast]⟩
    push_cast
    rw [zpow_neg, zpow_natCast, div_eq_mul_inv]

/-- A decimal is read as the double with the number that it is rounded to, unless it is far too large or too small
for that. -/
theorem toBits_nearestDecimal (exponent : Int) :
    ∃ num den : Nat, 0 < num ∧ 0 < den ∧ (num / den : ℚ) = mantissa * 10 ^ exponent ∧
      (nearestDecimal false mantissa exponent).toBits.toNat =
        if ((Nat.toDigits 10 mantissa).length : Int) + exponent > 400 then infiniteNumber
        else if ((Nat.toDigits 10 mantissa).length : Int) + exponent < -400 then 0
        else min (nearestNumber num den) infiniteNumber := by
  obtain ⟨num, den, some_num, some_den, value, same⟩ := exists_fraction some_mantissa exponent
  have near := toNat_nearestBits some_num some_den
  refine ⟨num, den, some_num, some_den, value, ?_⟩
  -- The two shortcuts give their own bits, and otherwise the fraction is rounded.
  unfold nearestDecimal
  simp only [same, beq_iff_eq, some_mantissa.ne', if_false, Bool.false_eq_true]
  split
  · exact congrArg UInt64.toNat (@toBits_ofBits 0x7FF0000000000000 (by decide))
  · split
    · exact congrArg UInt64.toNat (@toBits_ofBits 0 (by decide))
    · rw [toBits_ofBits (by omega), near]

/-- The size of a decimal tells a power of ten that it is not below. -/
theorem le_of_size {size : ℤ} (large : size < ((Nat.toDigits 10 mantissa).length : ℤ) + exponent) :
    (10 : ℚ) ^ size ≤ mantissa * 10 ^ exponent := by
  -- The digits of the mantissa tell the power of ten below it, and the exponent shifts that power.
  have low := (between_powers_of_ten some_mantissa).1
  calc (10 : ℚ) ^ size ≤ 10 ^ (((Nat.toDigits 10 mantissa).length : ℤ) - 1 + exponent) :=
        zpow_le_zpow_right₀ (by norm_num) (by omega)
    _ = 10 ^ (((Nat.toDigits 10 mantissa).length : ℤ) - 1) * 10 ^ exponent := zpow_add₀ (by norm_num) _ _
    _ ≤ mantissa * 10 ^ exponent := mul_le_mul_of_nonneg_right low (by positivity)

/-- A decimal that is rounded to a finite double other than zero is not far too large or too small. -/
theorem size_of_roundsFrom (positive : 0 < n) (finite : n < infiniteNumber)
    (rounds : (doubleAt n).RoundsFrom (mantissa * 10 ^ exponent)) :
    ((Nat.toDigits 10 mantissa).length : ℤ) + exponent ≤ 400 ∧
      -400 ≤ ((Nat.toDigits 10 mantissa).length : ℤ) + exponent := by
  have high := (between_powers_of_ten some_mantissa).2
  have unit : (0 : ℚ) < 10 ^ exponent := by positivity
  constructor
  · by_contra large
    have below := rounds.between.2.trans_lt (upperMiddle_lt finite)
    have above := le_of_size some_mantissa (Int.lt_of_not_ge large)
    -- That power of ten is beyond all finite doubles.
    have reversed : (10 : ℚ) ^ (400 : ℤ) < 2 ^ (1024 : ℤ) := above.trans_lt below
    have powers : 2 ^ 1024 < 10 ^ 400 := by decide +kernel
    exact absurd (powers.trans (by exact_mod_cast reversed)) (lt_irrefl _)
  · by_contra small
    -- And this one is below all that is rounded to more than zero.
    have above := (le_lowerMiddle positive).trans rounds.between.1
    have below : (mantissa * 10 ^ exponent : ℚ) < 10 ^ (-401 : ℤ) := by
      calc (mantissa * 10 ^ exponent : ℚ)
          < 10 ^ ((Nat.toDigits 10 mantissa).length : ℤ) * 10 ^ exponent := mul_lt_mul_of_pos_right high unit
        _ = 10 ^ ((Nat.toDigits 10 mantissa).length + exponent : ℤ) := (zpow_add₀ (by norm_num) _ _).symm
        _ ≤ 10 ^ (-401 : ℤ) := zpow_le_zpow_right₀ (by norm_num) (by omega)
    have reversed : (2 : ℚ) ^ (-1075 : ℤ) < 10 ^ (-401 : ℤ) := above.trans_lt below
    have powers : 2 ^ 1075 < 10 ^ 401 := by decide +kernel
    rw [zpow_neg, zpow_neg, inv_lt_inv₀ (by positivity) (by positivity)] at reversed
    exact absurd (powers.trans (by exact_mod_cast reversed)) (lt_irrefl _)

/-- A decimal is read as a finite double other than zero exactly if it is rounded to it. -/
theorem toBits_nearestDecimal_eq_iff (positive : 0 < n) (finite : n < infiniteNumber) :
    (nearestDecimal false mantissa exponent).toBits.toNat = n ↔
      (doubleAt n).RoundsFrom (mantissa * 10 ^ exponent) := by
  obtain ⟨num, den, some_num, some_den, value, bits⟩ := toBits_nearestDecimal some_mantissa exponent
  rw [bits]
  constructor
  · intro same
    split at same
    · exact absurd same finite.ne'
    · split at same
      · exact absurd same positive.ne
      -- Neither shortcut gives such a double, so it is the one that the fraction is rounded to.
      · have number : nearestNumber num den = n := by omega
        rw [← value, ← number]
        exact roundsFrom_nearestNumber some_num some_den
  · intro rounds
    -- A number is rounded to one double only, and no shortcut is taken for it.
    obtain ⟨notLarge, notSmall⟩ := size_of_roundsFrom some_mantissa positive finite rounds
    have number := roundsFrom_unique (roundsFrom_nearestNumber some_num some_den) (value ▸ rounds)
    rw [if_neg (by omega), if_neg (by omega), number, Nat.min_eq_left finite.le]

/-- Only large decimals are read as the infinite number. -/
theorem le_of_toBits_nearestDecimal
    (infinite : (nearestDecimal false mantissa exponent).toBits.toNat = infiniteNumber) :
    2 ^ (1023 : ℤ) ≤ (mantissa * 10 ^ exponent : ℚ) := by
  obtain ⟨num, den, some_num, some_den, value, bits⟩ := toBits_nearestDecimal some_mantissa exponent
  -- Either the first shortcut was taken, or the fraction is rounded to a double behind the finite ones.
  rw [infinite] at bits
  split at bits
  · rename_i large
    have powers : 2 ^ 1023 ≤ 10 ^ 400 := by decide +kernel
    refine le_trans ?_ (le_of_size some_mantissa large)
    exact_mod_cast powers
  · split at bits
    · exact absurd bits (by decide)
    · rw [← value]
      exact le_of_roundsFrom_infinite (by omega) (roundsFrom_nearestNumber some_num some_den)

omit some_mantissa in
/-- What a decimal is read as is not negative. -/
theorem toBits_nearestDecimal_le (mantissa : Nat) (exponent : Int) :
    (nearestDecimal false mantissa exponent).toBits.toNat ≤ infiniteNumber := by
  -- Zero has its own bits; for any other mantissa the number of the double is capped where it would be infinite.
  rcases Nat.eq_zero_or_pos mantissa with rfl | some_mantissa
  · have zero : (Float.ofBits 0).toBits.toNat ≤ infiniteNumber := by decide
    exact zero
  obtain ⟨num, den, -, -, -, bits⟩ := toBits_nearestDecimal some_mantissa exponent
  rw [bits]
  split
  · exact le_rfl
  · split
    · exact Nat.zero_le _
    · exact Nat.min_le_right _ _

end Decimal

end PlanLint
