import Mathlib.Algebra.Order.Field.Power
import Mathlib.Data.Rat.Cast.Order
import Mathlib.Tactic.FieldSimp
import Mathlib.Tactic.Linarith
import Mathlib.Tactic.NormNum
import Mathlib.Tactic.Positivity
import Mathlib.Tactic.Ring
import PlanLint.Decimal.Shortest

/-! The numbers that doubles are, and the numbers that are rounded to each of them. -/

namespace PlanLint

/-- The number that a double is, sign apart. -/
def Binary.value (b : Binary) : ℚ := b.mantissa * 2 ^ b.exponent

/-- The middle between a double and the next one above. -/
def Binary.upperMiddle (b : Binary) : ℚ := b.value + 2 ^ (b.exponent - 1)

/-- The middle between a double and the next one below. -/
def Binary.lowerMiddle (b : Binary) : ℚ := b.value - 2 ^ (b.exponent - if b.narrowBelow then 2 else 1)

/-- A number is rounded to a double if it lies between the two middles, or on one of them and the significand of
the double is even. -/
def Binary.RoundsFrom (b : Binary) (y : ℚ) : Prop :=
  if b.mantissa % 2 = 0 then b.lowerMiddle ≤ y ∧ y ≤ b.upperMiddle else b.lowerMiddle < y ∧ y < b.upperMiddle

/-- The number of digits of a number tells the powers of ten that it lies between. -/
theorem between_powers_of_ten {n : Nat} (positive : 0 < n) :
    (10 : ℚ) ^ ((Nat.toDigits 10 n).length - 1 : ℤ) ≤ n ∧ (n : ℚ) < 10 ^ ((Nat.toDigits 10 n).length : ℤ) := by
  obtain ⟨k, length⟩ : ∃ k, (Nat.toDigits 10 n).length = k + 1 :=
    ⟨_, (Nat.sub_add_cancel Nat.length_toDigits_pos).symm⟩
  -- A number has no more digits than the power of ten that it is below.
  have high : n < 10 ^ (k + 1) := (Nat.length_toDigits_le_iff (by decide) (by omega)).mp length.le
  have low : 10 ^ k ≤ n := by
    rcases Nat.eq_zero_or_pos k with rfl | some_
    · exact positive
    · refine Nat.le_of_not_lt fun few => ?_
      have short := (Nat.length_toDigits_le_iff (by decide) some_).mpr few
      omega
  rw [length, show ((k + 1 : Nat) : ℤ) - 1 = k by omega, zpow_natCast, zpow_natCast]
  exact ⟨by exact_mod_cast low, by exact_mod_cast high⟩

section Middles

variable {b : Binary} {y z w : ℚ}

/-- A power of two is positive. -/
theorem two_zpow_pos (e : ℤ) : (0 : ℚ) < 2 ^ e := by positivity

/-- A double lies above the middle below it. -/
theorem Binary.lowerMiddle_lt_value (b : Binary) : b.lowerMiddle < b.value :=
  sub_lt_self _ (two_zpow_pos _)

/-- It lies below the middle above it. -/
theorem Binary.value_lt_upperMiddle (b : Binary) : b.value < b.upperMiddle :=
  lt_add_of_pos_right _ (two_zpow_pos _)

/-- A number that is rounded to a double does not lie beyond the middles. -/
theorem Binary.RoundsFrom.between (rounds : b.RoundsFrom y) : b.lowerMiddle ≤ y ∧ y ≤ b.upperMiddle := by
  -- Only whether the middles themselves count depends on the mantissa.
  unfold Binary.RoundsFrom at rounds
  split at rounds
  · exact rounds
  · exact ⟨rounds.1.le, rounds.2.le⟩

/-- A number between the middles is rounded to the double. -/
theorem Binary.roundsFrom_of_lt (above : b.lowerMiddle < y) (below : y < b.upperMiddle) : b.RoundsFrom y := by
  -- Strictly between the middles the mantissa does not matter.
  unfold Binary.RoundsFrom
  split
  · exact ⟨above.le, below.le⟩
  · exact ⟨above, below⟩

/-- Between two numbers that are rounded to a double there are no others. -/
theorem Binary.RoundsFrom.convex (low : b.RoundsFrom y) (high : b.RoundsFrom z) (above : y ≤ w) (below : w ≤ z) :
    b.RoundsFrom w := by
  -- Both ends are of the same double, so the middles count for both or for neither.
  unfold Binary.RoundsFrom at *
  split at low
  · rw [if_pos ‹_›] at high ⊢
    exact ⟨low.1.trans above, below.trans high.2⟩
  · rw [if_neg ‹_›] at high ⊢
    exact ⟨low.1.trans_le above, below.trans_lt high.2⟩

/-- A double is rounded to itself. -/
theorem Binary.roundsFrom_value (b : Binary) : b.RoundsFrom b.value :=
  Binary.roundsFrom_of_lt b.lowerMiddle_lt_value b.value_lt_upperMiddle

/-- A number that is rounded to a double is no more than half a unit in the last place away. -/
theorem Binary.RoundsFrom.near (rounds : b.RoundsFrom y) :
    (b.mantissa - 1 / 2) * 2 ^ b.exponent ≤ y ∧ y ≤ (b.mantissa + 1 / 2) * 2 ^ b.exponent := by
  -- The gap below is no wider than the one above, so half a unit bounds both.
  have half : (2 : ℚ) ^ (b.exponent - if b.narrowBelow then 2 else 1) ≤ 2 ^ (b.exponent - 1) :=
    zpow_le_zpow_right₀ one_le_two (by split <;> omega)
  obtain ⟨low, high⟩ := rounds.between
  unfold Binary.lowerMiddle Binary.value at low
  unfold Binary.upperMiddle Binary.value at high
  rw [zpow_sub_one₀ two_ne_zero] at half high
  constructor <;> linarith

/-- In units of its last place, the numbers that are rounded to a double are those up to a half away from its
significand, or up to a quarter on the side where the next double is nearer. -/
theorem Binary.roundsFrom_units (b : Binary) (x : ℚ) :
    b.RoundsFrom (x * 2 ^ b.exponent) ↔
      if b.mantissa % 2 = 0 then (b.mantissa - if b.narrowBelow then 1 / 4 else 1 / 2) ≤ x ∧ x ≤ b.mantissa + 1 / 2
      else (b.mantissa - if b.narrowBelow then 1 / 4 else 1 / 2) < x ∧ x < b.mantissa + 1 / 2 := by
  have unit := two_zpow_pos b.exponent
  -- Both middles are multiples of the unit, which then cancels in every comparison.
  have low : b.lowerMiddle = (b.mantissa - if b.narrowBelow then 1 / 4 else 1 / 2) * 2 ^ b.exponent := by
    rw [Binary.lowerMiddle, Binary.value, zpow_sub₀ two_ne_zero]
    split <;> norm_num <;> ring
  have high : b.upperMiddle = (b.mantissa + 1 / 2) * 2 ^ b.exponent := by
    rw [Binary.upperMiddle, Binary.value, zpow_sub₀ two_ne_zero]
    norm_num
    ring
  rw [Binary.RoundsFrom, low, high]
  simp only [mul_le_mul_iff_left₀ unit, mul_lt_mul_iff_left₀ unit]

end Middles

/-- The doubles that are not negative, in order, as if there were no largest one. -/
def doubleAt (n : Nat) : Binary :=
  if n < 2 ^ 52 then ⟨n, -1074, false⟩
  else ⟨n % 2 ^ 52 + 2 ^ 52, (n / 2 ^ 52 : Nat) - 1075, n % 2 ^ 52 == 0 && n / 2 ^ 52 > 1⟩

/-- Below the least double with a full significand the number of a double is its significand. -/
theorem doubleAt_of_lt {n : Nat} (few : n < 2 ^ 52) : doubleAt n = ⟨n, -1074, false⟩ := if_pos few

/-- A double with a full significand. -/
theorem doubleAt_full (k : Nat) {m : Nat} (full : 2 ^ 52 ≤ m) (fits : m < 2 ^ 53) :
    doubleAt (k * 2 ^ 52 + m) = ⟨m, (k : Int) - 1074, m == 2 ^ 52 && k > 0⟩ := by
  have quotient : (k * 2 ^ 52 + m) / 2 ^ 52 = k + 1 := by omega
  have rest : (k * 2 ^ 52 + m) % 2 ^ 52 = m - 2 ^ 52 := by omega
  have power : (k : Int) + 1 - 1075 = k - 1074 := by omega
  rw [doubleAt, if_neg (by omega), quotient, rest, Nat.sub_add_cancel full]
  simp only [Nat.cast_add, Nat.cast_one, power, Binary.mk.injEq, true_and]
  -- The two ways to say that the next double below is nearer agree for these numbers.
  rw [Bool.eq_iff_iff]
  simp only [Bool.and_eq_true, beq_iff_eq, decide_eq_true_eq]
  omega

/-- Each double has one of the two forms. -/
theorem exists_doubleAt (n : Nat) :
    n < 2 ^ 52 ∨ ∃ k m, n = k * 2 ^ 52 + m ∧ 2 ^ 52 ≤ m ∧ m < 2 ^ 53 := by
  by_cases few : n < 2 ^ 52
  · exact .inl few
  · -- The number is split where the 52 bits of the fraction end.
    exact .inr ⟨n / 2 ^ 52 - 1, n % 2 ^ 52 + 2 ^ 52, by omega, by omega, by omega⟩

/-- The bits of a double that is not negative are its number. -/
theorem ofBits_eq_doubleAt {bits : UInt64} (positive : bits.toNat < 2 ^ 63) :
    Binary.ofBits bits = doubleAt bits.toNat := by
  -- Without a sign the exponent field is all that stands before the significand.
  have field : bits.toNat / 2 ^ 52 % 2048 = bits.toNat / 2 ^ 52 := Nat.mod_eq_of_lt (by omega)
  unfold Binary.ofBits doubleAt
  simp only [Nat.pow_eq, field, beq_iff_eq]
  by_cases few : bits.toNat < 2 ^ 52
  · rw [if_pos few, if_pos (by omega), Nat.mod_eq_of_lt few]
  · rw [if_neg few, if_neg (by omega)]

/-- The significand of a double is even where its number is. -/
theorem mantissa_doubleAt (n : Nat) : (doubleAt n).mantissa % 2 = n % 2 := by
  -- The hidden bit of a full significand is even.
  rcases exists_doubleAt n with few | ⟨k, m, rfl, full, fits⟩
  · rw [doubleAt_of_lt few]
  · rw [doubleAt_full k full fits]
    show m % 2 = _
    omega

/-- The next double has the next significand, or half of it under the next power of two where it would be too
long. -/
theorem doubleAt_succ (n : Nat) :
    (∃ m e narrow, doubleAt n = ⟨m, e, narrow⟩ ∧ doubleAt (n + 1) = ⟨m + 1, e, false⟩) ∨
      ∃ e narrow, doubleAt n = ⟨2 ^ 53 - 1, e, narrow⟩ ∧ doubleAt (n + 1) = ⟨2 ^ 52, e + 1, true⟩ := by
  rcases exists_doubleAt n with few | ⟨k, m, rfl, full, fits⟩
  · refine .inl ⟨n, -1074, false, doubleAt_of_lt few, ?_⟩
    by_cases last : n + 1 < 2 ^ 52
    · exact doubleAt_of_lt last
    · -- The first double with a full significand still has the least exponent.
      obtain rfl : n = 2 ^ 52 - 1 := by omega
      exact doubleAt_full 0 (m := 2 ^ 52) (by omega) (by omega)
  · by_cases last : m + 1 < 2 ^ 53
    · refine .inl ⟨m, _, _, doubleAt_full k full fits, ?_⟩
      -- Only the least full significand has a nearer double below it, and this one has another before it.
      have regular : (m + 1 == 2 ^ 52) = false := by simpa using (by omega : m + 1 ≠ 2 ^ 52)
      rw [Nat.add_assoc, doubleAt_full k (by omega) last, regular, Bool.false_and]
    · obtain rfl : m = 2 ^ 53 - 1 := by omega
      refine .inr ⟨_, _, doubleAt_full k full fits, ?_⟩
      have power : ((k + 1 : Nat) : Int) - 1074 = (k - 1074) + 1 := by omega
      rw [show k * 2 ^ 52 + (2 ^ 53 - 1) + 1 = (k + 1) * 2 ^ 52 + 2 ^ 52 by omega,
        doubleAt_full (k + 1) (by omega) (by omega), power]
      simp

/-- From one double to the next one it is a unit in the last place. -/
theorem value_succ (n : Nat) : (doubleAt (n + 1)).value = (doubleAt n).value + 2 ^ (doubleAt n).exponent := by
  rcases doubleAt_succ n with ⟨m, e, narrow, here, next⟩ | ⟨e, narrow, here, next⟩
  · rw [here, next, Binary.value, Binary.value]
    push_cast
    ring
  · -- Half a significand under twice the unit.
    rw [here, next, Binary.value, Binary.value]
    dsimp only
    rw [zpow_add_one₀ two_ne_zero]
    push_cast
    ring

/-- Half the unit below a double is half the unit above the double before. -/
theorem lowerHalf_succ (n : Nat) :
    ((doubleAt (n + 1)).exponent - if (doubleAt (n + 1)).narrowBelow then 2 else 1) = (doubleAt n).exponent - 1 := by
  rcases doubleAt_succ n with ⟨m, e, narrow, here, next⟩ | ⟨e, narrow, here, next⟩
  · rw [here, next]
    rfl
  · -- The power is one more, and the double is one with a nearer double below it.
    rw [here, next]
    show e + 1 - 2 = e - 1
    omega

/-- The middle below a double is the one above the double before. -/
theorem lowerMiddle_succ (n : Nat) : (doubleAt (n + 1)).lowerMiddle = (doubleAt n).upperMiddle := by
  -- The gap below the next double is that above this one, so that half of it is the same on both sides.
  have half : (2 : ℚ) ^ (doubleAt n).exponent = 2 ^ ((doubleAt n).exponent - 1) * 2 := by
    rw [← zpow_add_one₀ (two_ne_zero : (2 : ℚ) ≠ 0), Int.sub_add_cancel]
  rw [Binary.lowerMiddle, lowerHalf_succ, value_succ, Binary.upperMiddle, half]
  ring

/-- The middles above the doubles are in order. -/
theorem upperMiddle_lt_succ (n : Nat) : (doubleAt n).upperMiddle < (doubleAt (n + 1)).upperMiddle := by
  -- The middle between two neighbours lies below the second of them.
  rw [← lowerMiddle_succ]
  exact (Binary.lowerMiddle_lt_value _).trans (Binary.value_lt_upperMiddle _)

/-- No number is rounded to two doubles. -/
theorem roundsFrom_unique {m n : Nat} {y : ℚ} (first : (doubleAt m).RoundsFrom y)
    (second : (doubleAt n).RoundsFrom y) :
    m = n := by
  -- By symmetry the first double may be taken to be the smaller one.
  wlog below : m < n generalizing m n
  · by_contra other
    exact other (this second first (by omega)).symm
  exfalso
  obtain ⟨before, rfl⟩ : ∃ before, n = before + 1 := ⟨n - 1, by omega⟩
  have low := lowerMiddle_succ before ▸ second.between.1
  have high := first.between.2
  have order := (strictMono_nat_of_lt_succ upperMiddle_lt_succ).monotone (show m ≤ before by omega)
  -- Only the middle of two neighbours can be rounded to both, and just one of them has an even significand.
  obtain rfl : m = before :=
    (strictMono_nat_of_lt_succ upperMiddle_lt_succ).injective (le_antisymm order (low.trans high))
  obtain rfl : y = (doubleAt m).upperMiddle := le_antisymm high low
  unfold Binary.RoundsFrom at first second
  rw [mantissa_doubleAt] at first second
  by_cases even : m % 2 = 0
  · rw [if_neg (by omega), lowerMiddle_succ] at second
    exact lt_irrefl _ second.1
  · rw [if_neg even] at first
    exact lt_irrefl _ first.2

/-- A double other than zero has a significand of up to 53 bits, and the next double below is only nearer where the
significand is the least one of 53 bits. -/
theorem mantissa_spec {n : Nat} (positive : 0 < n) :
    0 < (doubleAt n).mantissa ∧ (doubleAt n).mantissa < 2 ^ 53 ∧
      ((doubleAt n).narrowBelow = true → (doubleAt n).mantissa = 2 ^ 52) := by
  rcases exists_doubleAt n with few | ⟨k, m, rfl, full, fits⟩
  · rw [doubleAt_of_lt few]
    exact ⟨positive, by show n < _; omega, by simp⟩
  · rw [doubleAt_full k full fits]
    refine ⟨by show 0 < m; omega, fits, fun narrow => ?_⟩
    -- The flag is set only where the significand is compared with its least value.
    exact eq_of_beq (Bool.and_eq_true _ _ ▸ narrow).1

/-- Numbers a tenth apart are not rounded to one double, unless it is one of the smallest. -/
theorem le_of_roundsFrom_apart {n : Nat} {y z : ℚ} (first : (doubleAt n).RoundsFrom y)
    (second : (doubleAt n).RoundsFrom z) (apart : 10 * y ≤ 9 * z) : z ≤ 2 ^ (-1022 : ℤ) := by
  have low := first.near.1
  have high := second.near.2
  rcases exists_doubleAt n with few | ⟨k, m, rfl, full, fits⟩
  -- Without a full significand the double itself is small.
  · rw [doubleAt_of_lt few] at high
    have cast : (n : ℚ) + 1 ≤ 2 ^ 52 := by exact_mod_cast few
    calc z ≤ (n + 1 / 2) * 2 ^ (-1074 : ℤ) := high
      _ ≤ 2 ^ 52 * 2 ^ (-1074 : ℤ) := mul_le_mul_of_nonneg_right (by linarith) (two_zpow_pos _).le
      _ = 2 ^ (-1022 : ℤ) := by
        rw [show (-1022 : ℤ) = 52 + -1074 by decide, zpow_add₀ two_ne_zero]
        norm_cast
  · -- With 53 bits the numbers that are rounded to a double are much nearer to each other.
    exfalso
    rw [doubleAt_full k full fits] at high low
    dsimp only at high low
    have cast : (2 : ℚ) ^ 52 ≤ m := by exact_mod_cast full
    have unit := two_zpow_pos ((k : ℤ) - 1074)
    have bound := mul_lt_mul_of_pos_right (show (10 : ℚ) < m by linarith) unit
    generalize (2 : ℚ) ^ ((k : ℤ) - 1074) = unit at *
    linarith

/-- The number behind those of the finite doubles, which is the infinite one. -/
def infiniteNumber : Nat := 2047 * 2 ^ 52

/-- No number from the power of two behind the finite doubles on is rounded to one of them. -/
theorem upperMiddle_lt {n : Nat} (finite : n < infiniteNumber) : (doubleAt n).upperMiddle < 2 ^ (1024 : ℤ) := by
  -- The middles are in order, and the last of them is that below the power of two.
  have last := (strictMono_nat_of_lt_succ upperMiddle_lt_succ).monotone (show n ≤ infiniteNumber - 1 by omega)
  have next := lowerMiddle_succ (infiniteNumber - 1)
  rw [show infiniteNumber - 1 + 1 = 2046 * 2 ^ 52 + 2 ^ 52 by decide] at next
  have value : (doubleAt (2046 * 2 ^ 52 + 2 ^ 52)).value = 2 ^ (1024 : ℤ) := by
    -- The double behind the finite ones would be that power.
    rw [doubleAt_full 2046 (by omega) (by omega), Binary.value,
      show (1024 : ℤ) = 52 + ((2046 : Nat) - 1074) by decide,
      zpow_add₀ two_ne_zero]
    generalize (2 : ℚ) ^ (((2046 : Nat) : ℤ) - 1074) = unit
    norm_num
  calc (doubleAt n).upperMiddle ≤ (doubleAt (infiniteNumber - 1)).upperMiddle := last
    _ = (doubleAt (2046 * 2 ^ 52 + 2 ^ 52)).lowerMiddle := next.symm
    _ < (doubleAt (2046 * 2 ^ 52 + 2 ^ 52)).value := Binary.lowerMiddle_lt_value _
    _ = 2 ^ (1024 : ℤ) := value

/-- Only large numbers are rounded to a double behind the finite ones. -/
theorem le_of_roundsFrom_infinite {n : Nat} {y : ℚ} (large : infiniteNumber ≤ n)
    (rounds : (doubleAt n).RoundsFrom y) :
    2 ^ (1023 : ℤ) ≤ y := by
  obtain ⟨before, rfl⟩ : ∃ before, n = before + 1 := ⟨n - 1, by unfold infiniteNumber at large; omega⟩
  -- What is rounded to it lies above the middle over the last finite double, and that one is large.
  have last := (strictMono_nat_of_lt_succ upperMiddle_lt_succ).monotone (show infiniteNumber - 1 ≤ before by omega)
  have value : 2 ^ (1023 : ℤ) ≤ (doubleAt (infiniteNumber - 1)).value := by
    rw [show infiniteNumber - 1 = 2045 * 2 ^ 52 + (2 ^ 53 - 1) by decide, doubleAt_full 2045 (by omega) (by omega),
      Binary.value, show (1023 : ℤ) = 52 + ((2045 : Nat) - 1074) by decide, zpow_add₀ two_ne_zero]
    exact mul_le_mul_of_nonneg_right (by norm_num) (two_zpow_pos _).le
  calc 2 ^ (1023 : ℤ) ≤ (doubleAt (infiniteNumber - 1)).value := value
    _ ≤ (doubleAt (infiniteNumber - 1)).upperMiddle := (Binary.value_lt_upperMiddle _).le
    _ ≤ (doubleAt before).upperMiddle := last
    _ = (doubleAt (before + 1)).lowerMiddle := (lowerMiddle_succ before).symm
    _ ≤ y := rounds.between.1

/-- No number up to half the least double is rounded to more than zero. -/
theorem le_lowerMiddle {n : Nat} (positive : 0 < n) : 2 ^ (-1075 : ℤ) ≤ (doubleAt n).lowerMiddle := by
  obtain ⟨before, rfl⟩ : ∃ before, n = before + 1 := ⟨n - 1, by omega⟩
  -- The middle below any other double is not below the one over zero.
  have first := (strictMono_nat_of_lt_succ upperMiddle_lt_succ).monotone (Nat.zero_le before)
  have zero : (doubleAt 0).upperMiddle = 2 ^ (-1075 : ℤ) := by
    rw [doubleAt_of_lt (by omega), Binary.upperMiddle, Binary.value]
    simp
  rw [lowerMiddle_succ, ← zero]
  exact first

end PlanLint
