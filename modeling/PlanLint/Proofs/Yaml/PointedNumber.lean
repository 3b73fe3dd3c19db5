import Mathlib.Data.Bool.AllAny
import PlanLint.Proofs.Text.Digit
import PlanLint.Proofs.Text.Trim
import PlanLint.Yaml.Scalar.Number
import PlanLint.Yaml.Tag

/-! Digits with a point among them are read as a floating-point number where they are written plainly. -/

namespace PlanLint

/-- Digits of ASCII, a point and more digits. -/
structure PointedNumber where
  whole : List Char
  fraction : List Char
  some_whole : whole ≠ []
  some_fraction : fraction ≠ []
  digits : ∀ c ∈ whole ++ fraction, isAsciiDigit c = true

namespace PointedNumber

/-- The number as it is written. -/
def text (number : PointedNumber) : List Char := number.whole ++ '.' :: number.fraction

/-- The number that its digits spell without the point. -/
def mantissa (number : PointedNumber) : Nat :=
  ofDigits 10 ((number.whole ++ number.fraction).filterMap decimalValue?)

/-- What it is read as: the double nearest to it. -/
def double (number : PointedNumber) : Float := nearestDecimal false number.mantissa (-(number.fraction.length : Int))

variable (number : PointedNumber)

/-- What a look at the point and at each digit shows for the characters of a number. -/
theorem of_mem_text {P : Char → Prop} (point : P '.') (all : ∀ n < 10, P (Nat.digitChar n)) :
    ∀ c ∈ number.text, P c := by
  -- The number is digits, the point and digits.
  intro c member
  rw [text, List.mem_append, List.mem_cons] at member
  rcases member with whole | rfl | fraction
  · exact of_isAsciiDigit all (number.digits c (List.mem_append_left _ whole))
  · exact point
  · exact of_isAsciiDigit all (number.digits c (List.mem_append_right _ fraction))

/-- It starts with a digit, and all characters but the point are digits. -/
theorem exists_text : ∃ first rest,
    number.whole = first :: rest ∧ number.text = first :: (rest ++ '.' :: number.fraction) ∧
      isAsciiDigit first = true ∧ (∀ c ∈ rest, isAsciiDigit c = true) ∧
      ∀ c ∈ number.fraction, isAsciiDigit c = true := by
  -- The whole part is not empty, and its first digit is the first character.
  obtain ⟨first, rest, split⟩ := List.exists_cons_of_ne_nil number.some_whole
  have digits := number.digits
  rw [split] at digits
  exact ⟨first, rest, split, by rw [text, split]; rfl, digits first (by simp),
    fun c inside => digits c (by simp [inside]),
    fun c inside => digits c (by simp [inside])⟩

/-- It has the shape of a decimal number. -/
theorem isDecimalShape_text : isDecimalShape number.text = true := by
  obtain ⟨first, rest, -, split, digit, restDigits, fraction⟩ := number.exists_text
  have stops : isDigitOrScore '.' = false := by decide
  -- The digits in front end at the point, and those behind it at the end.
  have grouped : groupedDigits? number.text = some ('.' :: number.fraction) := by
    rw [split, groupedDigits?, if_pos digit,
      List.dropWhile_append_of_pos fun c inside => by simp [isDigitOrScore, restDigits c inside],
      List.dropWhile_cons_of_neg (by simp [stops])]
  have all : number.fraction.dropWhile isDigitOrScore = [] := by
    rw [List.dropWhile_eq_nil_iff]
    intro c inside
    simp [isDigitOrScore, fraction c inside]
  simp [isDecimalShape, grouped, all]

/-- It has no sign. -/
theorem splitSign_text : splitSign number.text = (false, number.text) := by
  -- A digit is no sign.
  obtain ⟨first, rest, -, split, digit, -, -⟩ := number.exists_text
  have unsigned : first ≠ '-' ∧ first ≠ '+' := of_isAsciiDigit (P := fun c => c ≠ '-' ∧ c ≠ '+') (by decide) digit
  rw [split]
  unfold splitSign
  split <;> simp_all

/-- It is no word that starts otherwise. -/
theorem text_ne (word : List Char) (other : word.head?.any isAsciiDigit = false) : number.text ≠ word := by
  -- Their first characters tell them apart.
  obtain ⟨first, rest, -, split, digit, -, -⟩ := number.exists_text
  rintro rfl
  rw [split] at other
  simp [digit] at other

/-- Written plainly it is tagged as a floating-point number. -/
theorem ofPlain_text : Tag.ofPlain false number.text = .core .float := by
  -- The tags that are tried before: it is no boolean, and no newline is taken off its end.
  have noNewline : '\n' ∉ number.text := fun inside =>
    number.of_mem_text (P := (· ≠ '\n')) (by decide) (by decide) _ inside rfl
  have whole : withoutLastNewline number.text = number.text := by
    rw [withoutLastNewline, if_neg]
    intro last
    exact noNewline (List.mem_of_getLast? (by simpa using last))
  have noBoolean : String.ofList number.text ∉ booleanWords := by
    have letters : ∀ word ∈ booleanWords, word.toList.head?.any isAsciiDigit = false :=
      List.all_iff_forall_prop.mp rfl
    exact fun word => number.text_ne _ (letters _ word) String.toList_ofList.symm
  unfold Tag.ofPlain
  simp [whole, noBoolean, isFloatShape, number.splitSign_text, number.isDecimalShape_text]

/-- Its digits are taken on both sides of the point. -/
theorem decimalNumber?_text : decimalNumber? false number.text = some number.double := by
  obtain ⟨first, rest, isWhole, -, digit, restDigits, fraction⟩ := number.exists_text
  have wholeDigits : ∀ c ∈ number.whole, isDecimalDigit c = true := fun c inside =>
    isDecimalDigit_of_isAsciiDigit (number.digits c (List.mem_append_left _ inside))
  have fractionDigits : ∀ c ∈ number.fraction, isDecimalDigit c = true := fun c inside =>
    isDecimalDigit_of_isAsciiDigit (fraction c inside)
  have point : isDecimalDigit '.' = false := by decide
  -- What is taken and left at each step: the whole digits, the point, the digits of the fraction, nothing.
  have taken : number.text.takeWhile isDecimalDigit = number.whole := by
    rw [text, List.takeWhile_append_of_pos wholeDigits, List.takeWhile_cons_of_neg (by simp [point]),
      List.append_nil]
  have behind : number.text.drop number.whole.length = '.' :: number.fraction := by
    rw [text, List.drop_left]
  have fractionTaken : number.fraction.takeWhile isDecimalDigit = number.fraction := by
    rw [List.takeWhile_eq_self_iff]
    exact fractionDigits
  have nothing : number.fraction.dropWhile isDecimalDigit = [] := by
    rw [List.dropWhile_eq_nil_iff]
    exact fractionDigits
  unfold decimalNumber?
  simp [taken, behind, fractionTaken, nothing, number.some_whole, exponent?, double, mantissa]

/-- Its small letters are its characters. -/
theorem smallLetters_text : smallLetters number.text = number.text := by
  -- Neither a digit nor the point is a capital letter.
  rw [smallLetters_eq_map (number.of_mem_text (P := fun c => c.toNat < 128) (by decide) (by decide)),
    List.map_congr_left (number.of_mem_text (P := fun c => c.toLower = id c) (by decide) (by decide)), List.map_id]

/-- As a whole text it is read as the double nearest to it. -/
theorem readFloatText_text : readFloatText number.text = .ok number.double := by
  -- No blanks around it and no word for an infinite or undefined number: only the digits are left to read.
  have trimmed : trim number.text = number.text := by
    have spoken : ∀ c ∈ number.text, isBlank c = false :=
      number.of_mem_text (P := fun c => isBlank c = false) (by decide) (by decide)
    have between := @trim_between [] _ [] (by simp) spoken (by simp [text])
    simpa using between
  have infinite := number.text_ne ['i', 'n', 'f'] (by decide)
  have infinity := number.text_ne ['i', 'n', 'f', 'i', 'n', 'i', 't', 'y'] (by decide)
  have undefined := number.text_ne ['n', 'a', 'n'] (by decide)
  unfold readFloatText
  simp [trimmed, splitSign_text, smallLetters_text, infinite, infinity, undefined, decimalNumber?_text]

/-- As a scalar it is read as the double nearest to it. -/
theorem readFloat_text : readFloat true number.text = .ok number.double := by
  -- There is nothing in it that a scalar may have and a decimal number may not.
  have ungrouped : number.text.filter (· != '_') = number.text :=
    List.filter_eq_self.mpr (number.of_mem_text (P := fun c => (c != '_') = true) (by decide) (by decide))
  have noExponent : 'e' ∉ number.text := fun inside =>
    number.of_mem_text (P := fun c => c ≠ 'e') (by decide) (by decide) _ inside rfl
  have infinite := number.text_ne ['.', 'i', 'n', 'f'] (by decide)
  have undefined := number.text_ne ['.', 'n', 'a', 'n'] (by decide)
  unfold readFloat
  simp [ungrouped, smallLetters_text, splitSign_text, infinite, undefined, noExponent, readFloatText_text]

end PointedNumber

end PlanLint
