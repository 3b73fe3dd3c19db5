import PlanLint.Proofs.Decimal.Bits
import PlanLint.Proofs.Decimal.Notation
import PlanLint.Proofs.Rule.VersionPattern

/-! Numbers as versions: a number begins with a version as it is written, unless it takes an exponent and has no more
than one digit. -/

namespace PlanLint

/-- A text begins with a version. -/
def BeginsVersion (text : List Char) : Prop := ∃ version : WrittenVersion, version.text <+: text

section Begins

variable {major minor digits : List Char}

/-- Two numbers with a dot between them begin with a version. -/
theorem beginsVersion_of_digits (isMajor : IsDigits major) (isMinor : IsDigits minor) (rest : List Char) :
    BeginsVersion (major ++ '.' :: (minor ++ rest)) := by
  -- Nothing in front, no patch level, and whatever follows the second number.
  refine ⟨⟨none, [], major, minor, none, by simp, by simp, isMajor, isMinor, by simp⟩, rest, ?_⟩
  simp [WrittenVersion.text, patchText]

/-- The digits of a number are a number. -/
theorem isDigits_toDigits (n : Nat) : IsDigits (Nat.toDigits 10 n) :=
  ⟨Nat.toDigits_ne_nil, fun _ member => isDecimalDigit_of_isAsciiDigit (isAsciiDigit_of_mem_toDigits member)⟩

/-- Zeros may stand in front of a number or behind it. -/
theorem IsDigits.zeros (number : IsDigits digits) (front behind : Nat) :
    IsDigits (List.replicate front '0' ++ digits ++ List.replicate behind '0') := by
  -- A zero is a digit wherever it stands.
  refine ⟨by simp [number.1], fun c member => ?_⟩
  have zero : isDecimalDigit '0' = true := by decide
  rcases List.mem_append.mp member with member | member
  · rcases List.mem_append.mp member with member | member
    · exact List.eq_of_mem_replicate member ▸ zero
    · exact number.2 c member
  · exact List.eq_of_mem_replicate member ▸ zero

/-- A part of a number is one, if it is not empty. -/
theorem IsDigits.sublist (number : IsDigits digits) (part : List Char) (some_ : part ≠ [])
    (sub : part.Sublist digits) : IsDigits part :=
  ⟨some_, fun c member => number.2 c (sub.subset member)⟩

/-- A number that is written out in full begins with a version. -/
theorem beginsVersion_positionalText (number : IsDigits digits) (power : Int) :
    BeginsVersion (positionalText digits power).toList := by
  -- Zeros behind the digits and a fraction of zero, a point among the digits, or zeros in front of them.
  have zero : IsDigits ['0'] := isDigits_toDigits 0
  have some_digits := List.length_pos_iff.mpr number.1
  unfold positionalText
  split
  · have text := beginsVersion_of_digits (number.zeros 0 power.toNat) zero []
    simpa using text
  · dsimp only
    split
    · have text := beginsVersion_of_digits
        (number.sublist (digits.take (digits.length - (-power).toNat)) ?_ (List.take_sublist _ _))
        (number.sublist (digits.drop (digits.length - (-power).toNat)) ?_ (List.drop_sublist _ _)) []
      · simpa using text
      · exact List.ne_nil_of_length_pos (by rw [List.length_take]; omega)
      · exact List.ne_nil_of_length_pos (by rw [List.length_drop]; omega)
    · have text := beginsVersion_of_digits zero (number.zeros ((-power).toNat - digits.length) 0) []
      simpa using text

/-- A number with an exponent begins with a version if it has a fraction. -/
theorem beginsVersion_scientificText (number : IsDigits digits) (fraction : 1 < digits.length) (n : FloatNotation)
    (exponent : Int) : BeginsVersion (scientificText n digits exponent).toList := by
  -- With two digits at least, a point stands behind the first.
  match digits, number, fraction with
  | first :: second :: more, number, _ =>
    have text := beginsVersion_of_digits (number.sublist [first] (by simp) (by simp))
      (number.sublist (second :: more) (by simp) (by simp))
    simpa [scientificText] using text _

/-- It does not if it has one digit only. -/
theorem not_beginsVersion_scientificText (number : IsDigits digits) (single : digits.length = 1) (n : FloatNotation)
    (exponent : Int) : ¬ BeginsVersion (scientificText n digits exponent).toList := by
  -- Behind the only digit comes the letter of the exponent, so that no point follows the first number.
  obtain ⟨digit, rfl⟩ := List.length_eq_one_iff.mp single
  have isDigit := number.2 digit (by simp)
  have noLetter : isDecimalDigit 'e' = false := by decide
  have unsigned : digit ≠ '>' ∧ digit ≠ '<' ∧ digit ≠ '=' := by
    refine ⟨?_, ?_, ?_⟩ <;> rintro rfl <;> revert isDigit <;> decide
  obtain ⟨rest, text⟩ : ∃ rest, (scientificText n [digit] exponent).toList = digit :: 'e' :: rest := by
    simp [scientificText]
  rw [text, BeginsVersion, ← readsVersions_matchVersion.isSome_iff]
  have noComparator : leadingComparator (digit :: 'e' :: rest) = [] := by
    unfold leadingComparator
    split <;> simp_all
  simp [matchVersion, noComparator, trimStart, isBlank_of_isDecimalDigit isDigit, isDigit, noLetter]

end Begins

/-- A decimal of one digit with an exponent, as one is written that is not written out in full. -/
def IsBareScientific (digit : Nat) (exponent : Int) : Prop :=
  0 < digit ∧ digit < 10 ∧ (exponent < -4 ∨ 15 < exponent)

section Number

variable {n digit : Nat} {exponent : Int} {y : ℚ} {x : Float}

/-- No such decimal is rounded to a double to which one from a ten-thousandth to nine quadrillion is rounded. -/
theorem not_roundsFrom_of_between (low : 1 / 10000 ≤ y) (high : y ≤ 9 * 10 ^ 15) (rounds : (doubleAt n).RoundsFrom y)
    (bare : IsBareScientific digit exponent) : ¬ (doubleAt n).RoundsFrom (digit * 10 ^ exponent) := by
  obtain ⟨positive, single, outside⟩ := bare
  intro also
  -- Numbers a tenth apart share one of the least doubles only, and neither of these two is as small.
  have powers : 10000 < 2 ^ 1022 := by decide +kernel
  have tiny : (2 : ℚ) ^ (-1022 : ℤ) < 1 / 10000 := by
    rw [zpow_neg, inv_lt_comm₀ (by positivity) (by positivity)]
    norm_num
    exact_mod_cast powers
  have digitLow : (1 : ℚ) ≤ digit := by exact_mod_cast positive
  have digitHigh : (digit : ℚ) ≤ 9 := by exact_mod_cast Nat.lt_succ_iff.mp single
  rcases outside with small | large
  · -- It is nine hundred-thousandths at most, a tenth less than a ten-thousandth.
    have power : (10 : ℚ) ^ exponent ≤ 10 ^ (-5 : ℤ) := zpow_le_zpow_right₀ (by norm_num) (by omega)
    have below : (digit * 10 ^ exponent : ℚ) ≤ 9 * 10 ^ (-5 : ℤ) :=
      mul_le_mul digitHigh power (by positivity) (by norm_num)
    norm_num at below
    have least := le_of_roundsFrom_apart also rounds (by linarith)
    linarith
  · -- It is ten quadrillion at least, a ninth more than nine.
    have power : (10 : ℚ) ^ (16 : ℤ) ≤ 10 ^ exponent := zpow_le_zpow_right₀ (by norm_num) (by omega)
    have above : (1 * 10 ^ (16 : ℤ) : ℚ) ≤ digit * 10 ^ exponent :=
      mul_le_mul digitLow power (by positivity) (by linarith)
    norm_num at above
    have least := le_of_roundsFrom_apart rounds also (by linarith)
    linarith

/-- A decimal of one digit that is written out in full lies between these. -/
theorem between_of_inside (positive : 0 < digit) (single : digit < 10) (least : -4 ≤ exponent)
    (most : exponent ≤ 15) :
    (1 / 10000 : ℚ) ≤ digit * 10 ^ exponent ∧ (digit * 10 ^ exponent : ℚ) ≤ 9 * 10 ^ 15 := by
  -- The least and the greatest of such decimals are 0.0001 and nine times the fifteenth power of ten.
  have digitLow : (1 : ℚ) ≤ digit := by exact_mod_cast positive
  have digitHigh : (digit : ℚ) ≤ 9 := by exact_mod_cast Nat.lt_succ_iff.mp single
  constructor
  · calc (1 / 10000 : ℚ) = 1 * 10 ^ (-4 : ℤ) := by norm_num
      _ ≤ digit * 10 ^ exponent :=
        mul_le_mul digitLow (zpow_le_zpow_right₀ (by norm_num) least) (by positivity) (by linarith)
  · calc (digit * 10 ^ exponent : ℚ) ≤ 9 * 10 ^ (15 : ℤ) :=
        mul_le_mul digitHigh (zpow_le_zpow_right₀ (by norm_num) most) (by positivity) (by norm_num)
      _ = 9 * 10 ^ 15 := by norm_num

/-- A finite number other than zero as it is written. -/
theorem plainText_eq (positive : 0 < x.toBits.toNat) (finite : x.toBits.toNat < infiniteNumber) {k : Nat}
    {power : Int}
    (written : (doubleAt x.toBits.toNat).IsWritten k power) :
    plainNotation.text x =
      if -4 ≤ power + ((Nat.toDigits 10 k).length : Int) - 1 ∧
          power + ((Nat.toDigits 10 k).length : Int) - 1 ≤ 15 then
        positionalText (Nat.toDigits 10 k) power
      else scientificText plainNotation (Nat.toDigits 10 k) (power + ((Nat.toDigits 10 k).length : Int) - 1) := by
  have small : x.toBits.toNat < 2 ^ 63 := by unfold infiniteNumber at finite; omega
  have unsigned : ¬ x.toBits ≥ 0x8000000000000000 := by
    rw [ge_iff_le, UInt64.le_iff_toNat_le]
    exact Nat.not_le_of_lt small
  -- The digits of zero are written otherwise, but the shortest digits of this number are not those.
  have some_digits : (doubleAt x.toBits.toNat).shortest.1 ≠ 0 := by
    intro zero
    have digits := congrArg Prod.fst written.digits
    rw [zero] at digits
    exact Nat.toDigits_ne_nil digits.symm
  unfold FloatNotation.text
  dsimp only
  rw [isNaN_eq_false finite.le, isInf_eq_false finite, if_neg unsigned, ofBits_eq_doubleAt small, written.digits]
  simp [some_digits, plainNotation]

/-- A finite number other than zero begins with a version as it is written, unless such a decimal is rounded to
it. -/
theorem beginsVersion_text_iff (positive : 0 < x.toBits.toNat) (finite : x.toBits.toNat < infiniteNumber) :
    BeginsVersion (plainNotation.text x).toList ↔
      ¬ ∃ digit exponent, IsBareScientific digit exponent ∧
        (doubleAt x.toBits.toNat).RoundsFrom (digit * 10 ^ exponent) := by
  -- Whether a point is written is up to the shortest digits: how many they are and where they stand.
  obtain ⟨k, power, written⟩ := exists_isWritten positive
  have isDigits := isDigits_toDigits k
  have oneDigit : k < 10 → (Nat.toDigits 10 k).length = 1 := fun small => by rw [Nat.toDigits_of_lt_base small]; rfl
  have moreDigits : ¬ k < 10 → 1 < (Nat.toDigits 10 k).length := by
    intro large
    rw [← not_le, Nat.length_toDigits_le_iff (by decide) Nat.one_pos]
    exact large
  rw [plainText_eq positive finite written]
  split
  · -- It is written out in full, and one digit would stand at the same power.
    rename_i inside
    refine iff_of_true (beginsVersion_positionalText isDigits power) ?_
    rintro ⟨digit, exponent, bare, rounds⟩
    have single := written.shortest digit exponent bare.2.1 rounds
    rw [oneDigit single] at inside
    obtain ⟨low, high⟩ := between_of_inside written.positive single (by omega) (show power ≤ 15 by omega)
    exact not_roundsFrom_of_between low high written.rounds bare rounds
  · rename_i outside
    -- It is written with an exponent, and one digit is itself such a decimal.
    by_cases single : k < 10
    · refine iff_of_false (not_beginsVersion_scientificText isDigits (oneDigit single) _ _) (not_not_intro ?_)
      rw [oneDigit single] at outside
      exact ⟨k, power, ⟨written.positive, single, by omega⟩, written.rounds⟩
    · refine iff_of_true (beginsVersion_scientificText isDigits (moreDigits single) _ _) ?_
      rintro ⟨digit, exponent, bare, rounds⟩
      exact single (written.shortest digit exponent bare.2.1 rounds)

/-- A number other than zero that a decimal is read as which has one digit and is written with an exponent. -/
def TakesBareExponent (x : Float) : Prop :=
  x.toBits ≠ 0 ∧ ∃ digit exponent, IsBareScientific digit exponent ∧ nearestDecimal false digit exponent = x

/-- A number that is not negative begins with a version as it is written, unless it takes a bare exponent. -/
theorem beginsVersion_iff_not_takes (known : x.toBits.toNat ≤ infiniteNumber) :
    BeginsVersion (plainNotation.text x).toList ↔ ¬ TakesBareExponent x := by
  -- Zero and the infinite number are two fixed doubles, whose texts are computed.
  have same : ∀ {bits : UInt64},
      x.toBits.toNat = bits.toNat → bits.toNat ≤ infiniteNumber → x = Float.ofBits bits := by
    intro bits numbers known
    rw [← Float.toBits_inj, toBits_ofBits known]
    exact UInt64.toNat_inj.mp numbers
  rcases Nat.eq_zero_or_pos x.toBits.toNat with zero | positive
  · obtain rfl := @same 0 zero (by decide)
    refine iff_of_true ?_ (fun takes => takes.1 (toBits_ofBits (by decide)))
    have text : (plainNotation.text (Float.ofBits 0)).toList = ['0', '.', '0'] := by decide +kernel
    rw [text]
    exact beginsVersion_of_digits (isDigits_toDigits 0) (isDigits_toDigits 0) []
  rcases Nat.lt_or_ge x.toBits.toNat infiniteNumber with finite | infinite
  · rw [beginsVersion_text_iff positive finite]
    have some_ : x.toBits ≠ 0 := fun zero => by simp [zero] at positive
    refine not_congr ⟨?_, ?_⟩
    · rintro ⟨digit, exponent, bare, rounds⟩
      refine ⟨some_, digit, exponent, bare, ?_⟩
      rw [← Float.toBits_inj, ← UInt64.toNat_inj]
      exact (toBits_nearestDecimal_eq_iff bare.1 positive finite).mpr rounds
    · rintro ⟨-, digit, exponent, bare, read⟩
      exact ⟨digit, exponent, bare, (toBits_nearestDecimal_eq_iff bare.1 positive finite).mp (by rw [read])⟩
  · -- The infinite number has no digits at all, and a large power of ten is read as it.
    obtain rfl := @same 0x7FF0000000000000 (Nat.le_antisymm known infinite) (by decide)
    have text : (plainNotation.text (Float.ofBits 0x7FF0000000000000)).toList = ['i', 'n', 'f'] := by decide +kernel
    have power : nearestDecimal false 1 400 = Float.ofBits 0x7FF0000000000000 := by decide +kernel
    have some_ : (Float.ofBits 0x7FF0000000000000).toBits ≠ 0 := by decide +kernel
    refine iff_of_false ?_ (not_not_intro ⟨some_, 1, 400, ⟨by decide, by decide, by decide⟩, power⟩)
    rw [text, BeginsVersion, ← readsVersions_matchVersion.isSome_iff]
    decide

/-- A decimal from a ten-thousandth to nine quadrillion takes none. -/
theorem not_takesBareExponent {mantissa : Nat} {power : Int} (low : (1 / 10000 : ℚ) ≤ mantissa * 10 ^ power)
    (high : (mantissa * 10 ^ power : ℚ) ≤ 9 * 10 ^ 15) :
    ¬ TakesBareExponent (nearestDecimal false mantissa power) := by
  rintro ⟨some_, digit, exponent, bare, read⟩
  -- What the decimal is read as is a finite number, which both decimals would be rounded to.
  have some_mantissa : 0 < mantissa := by
    rcases Nat.eq_zero_or_pos mantissa with rfl | positive
    · norm_num at low
    · exact positive
  have positive : 0 < (nearestDecimal false mantissa power).toBits.toNat := by
    rw [Nat.pos_iff_ne_zero]
    exact fun zero => some_ (UInt64.toNat_inj.mp zero)
  rcases Nat.lt_or_eq_of_le (toBits_nearestDecimal_le mantissa power) with finite | infinite
  · have rounds := (toBits_nearestDecimal_eq_iff some_mantissa positive finite).mp rfl
    have also := (toBits_nearestDecimal_eq_iff bare.1 positive finite).mp (by rw [read])
    exact not_roundsFrom_of_between low high rounds bare also
  · have large := (le_of_toBits_nearestDecimal some_mantissa infinite).trans high
    have powers : 9 * 10 ^ 15 < 2 ^ 1023 := by decide +kernel
    have reversed : 2 ^ 1023 ≤ 9 * 10 ^ 15 := by exact_mod_cast large
    omega

end Number

end PlanLint
