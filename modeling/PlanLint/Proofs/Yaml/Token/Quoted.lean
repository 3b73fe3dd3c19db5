import PlanLint.Proofs.Yaml.Failure
import PlanLint.Yaml.Token.Quoted
import Mathlib.Algebra.Group.Nat.Defs

/-! A quoted scalar is read from one place of a text to another, and every failure belongs to the text. Reading
breaks off only at an escape whose code needs more than thirty-one bits. -/

namespace PlanLint

/-- A hexadecimal digit is one of sixteen. -/
theorem hexValue?_lt {c : Char} {value : Nat} (digit : hexValue? c = some value) : value < 16 := by
  unfold hexValue? at digit
  simp only [Bool.and_eq_true, decide_eq_true_eq, Char.le_def, UInt32.le_iff_toNat_le] at digit
  -- Three ranges of characters, each with its own first value.
  split at digit
  · rename_i bounds
    obtain rfl := Option.some.inj digit
    change 48 ≤ c.toNat ∧ c.toNat ≤ 57 at bounds
    change c.toNat - 48 < 16
    omega
  · split at digit
    · rename_i bounds
      obtain rfl := Option.some.inj digit
      change 97 ≤ c.toNat ∧ c.toNat ≤ 102 at bounds
      change c.toNat - 97 + 10 < 16
      omega
    · split at digit
      · rename_i bounds
        obtain rfl := Option.some.inj digit
        change 65 ≤ c.toNat ∧ c.toNat ≤ 70 at bounds
        change c.toNat - 65 + 10 < 16
        omega
      · simp at digit

/-- A carriage return is no hexadecimal digit. -/
theorem hexValue?_return : hexValue? '\r' = none := by decide

/-- Digits below a base spell a number below its power. -/
theorem ofDigits_lt {base : Nat} {digits : List Nat} (small : ∀ d ∈ digits, d < base) :
    ofDigits base digits < base ^ digits.length := by
  -- Each digit takes the number so far to less than the next multiple of the base.
  have grown : ∀ start, digits.foldl (fun n d => n * base + d) start < (start + 1) * base ^ digits.length := by
    induction digits with
    | nil => intro start; simp
    | cons d digits ih =>
      intro start
      have first := small d List.mem_cons_self
      have later := ih (fun other member => small other (List.mem_cons_of_mem _ member)) (start * base + d)
      rw [List.foldl_cons, List.length_cons, Nat.pow_succ']
      calc _ < (start * base + d + 1) * base ^ digits.length := later
        _ ≤ ((start + 1) * base) * base ^ digits.length := Nat.mul_le_mul_right _ (by rw [Nat.add_mul]; omega)
        _ = (start + 1) * (base * base ^ digits.length) := Nat.mul_assoc _ _ _
  simpa [ofDigits] using grown 0

/-- Some digits in hexadecimal spell a number below the power of sixteen for their count. -/
theorem ofDigits_hexadecimal_lt (digits : List Char) :
    ofDigits 16 (digits.filterMap hexValue?) < 16 ^ digits.length := by
  -- What is no digit is left out, which only makes the number smaller.
  have small : ∀ d ∈ digits.filterMap hexValue?, d < 16 := by
    intro d member
    obtain ⟨char, -, digit⟩ := List.mem_filterMap.mp member
    exact hexValue?_lt digit
  exact Nat.lt_of_lt_of_le (ofDigits_lt small)
    (Nat.pow_le_pow_right (by decide) (List.length_filterMap_le hexValue? digits))

/-- Eight hexadecimal digits for a code that needs more than thirty-one bits. -/
structure IsHugeCode (digits : List Char) : Prop where
  count : digits.length = 8
  hexadecimal : ∀ digit ∈ digits, (hexValue? digit).isSome = true
  large : 0x7FFFFFFF < ofDigits 16 (digits.filterMap hexValue?)

/-- The escape of such a code stands in a text. -/
def HoldsHugeCode (text : List Char) : Prop :=
  ∃ digits, IsHugeCode digits ∧ '\\' :: 'U' :: digits <:+: text

variable {text : List Char} {breaks : Breakdown → Prop} {c : Cursor} {started : Mark}

/-- The characters at a cursor, as far as there are so many. -/
theorem Cursor.map_ahead_range {width : Nat} (within : width ≤ c.rest.length) :
    (List.range width).map c.ahead = c.rest.take width := by
  -- Both lists are compared place by place.
  refine List.ext_getElem (by simp [within]) fun i below _ => ?_
  rw [List.length_map, List.length_range] at below
  simp [Cursor.ahead, Nat.lt_of_lt_of_le below within]

/-- A number in hexadecimal is spelled by the digits at its cursor. -/
theorem hexAt_eq_ok {width code : Nat} (read : hexAt width c = .ok code) :
    ∃ digits, digits <+: c.rest ∧ digits.length = width ∧
      (∀ digit ∈ digits, (hexValue? digit).isSome = true) ∧ ofDigits 16 (digits.filterMap hexValue?) = code := by
  unfold hexAt at read
  split at read
  · simp at read
  · rename_i digits
    -- What stands behind the end of the text would have been found, since it is no digit.
    have within : width ≤ c.rest.length := by
      by_contra short
      have last : c.ahead c.rest.length ∈ (List.range width).map c.ahead :=
        List.mem_map.mpr ⟨_, List.mem_range.mpr (by omega), rfl⟩
      exact List.find?_eq_none.mp digits _ last (by simp [Cursor.ahead]; decide)
    rw [Cursor.map_ahead_range within] at read digits
    refine ⟨c.rest.take width, List.take_prefix _ _, by simp [within], fun digit member => ?_, Except.ok.inj read⟩
    simpa [Option.isSome_iff_ne_none] using List.find?_eq_none.mp digits digit member

/-- Behind a number in hexadecimal stands a place of the text again. -/
theorem Cursor.StandsIn.skip_hexAt {width code : Nat} (stands : c.StandsIn text)
    (read : hexAt width c = .ok code) : (c.skip width).StandsIn text := by
  -- A carriage return is no digit.
  obtain ⟨digits, front, count, all, -⟩ := hexAt_eq_ok read
  refine stands.skip_prefix front (fun member => ?_) (Nat.le_of_eq count.symm)
  exact absurd (all '\r' member) (by rw [hexValue?_return]; decide)

/-- Some steps and some more are all of them. -/
theorem Cursor.skip_skip (c : Cursor) (n m : Nat) : (c.skip n).skip m = c.skip (n + m) := by
  -- Induction on the steps that come first.
  induction n generalizing c with
  | zero => rw [Nat.zero_add, Cursor.skip]
  | succ n ih => rw [Nat.add_right_comm, Cursor.skip, Cursor.skip, ih]

/-- The second half of a pair is behind an escape that breaks no line. -/
theorem Cursor.StandsIn.skip_lowUnit {low : Nat} (stands : c.StandsIn text) (found : lowUnitAt? c = some low) :
    (c.skip 6).StandsIn text := by
  unfold lowUnitAt? at found
  split at found
  · rename_i signs
    simp only [Bool.and_eq_true, beq_iff_eq] at signs
    split at found
    · rename_i unit read
      have behind : (c.skip 2).StandsIn text :=
        stands.skip_two (by rw [← Cursor.ahead_zero, signs.1]; decide) (by rw [signs.2]; decide)
      -- A backslash and its letter, then four digits.
      rw [← Cursor.skip_skip c 2 4]
      exact behind.skip_hexAt read
    · simp at found
  · simp at found

/-- An escaped character, unless its code is too long. -/
theorem escapedCharacter_gives {code : Nat} (stands : c.StandsIn text)
    (huge : 0x7FFFFFFF < code → breaks .hugeCode) :
    Gives text breaks (fun read => read.2.StandsIn text) (escapedCharacter code c) := by
  unfold escapedCharacter
  split
  · -- Only such a code makes reading break off; the other branches report a problem or go on.
    rename_i large
    exact .breakdown (huge large)
  · split
    · exact problemOf_isOf
    · split
      · split
        · rename_i low found
          exact stands.skip_lowUnit found
        · exact stands
      · exact stands

/-- The line breaks in a quoted scalar. -/
theorem quotedBreaks_gives {fuel : Nat} (stands : c.StandsIn text) :
    Gives text breaks (fun read => read.2.StandsIn text) (quotedBreaks started fuel c) := by
  -- Induction on the fuel, a line in each step.
  induction fuel generalizing c with
  | zero => exact stands
  | succ fuel ih =>
    rw [quotedBreaks]
    split
    · exact problemWhile_isOf stands.isPlace
    · dsimp only
      split
      · exact stands.skip_blanks
      · rename_i broken
        exact (ih (stands.skip_blanks.behind_lineBreak broken)).bind fun _ behind => behind

/-- An escape; the backslash stands in front of the cursor. -/
theorem quotedEscape_gives (stands : c.StandsIn text)
    (huge : ∀ digits, IsHugeCode digits → 'U' :: digits <+: c.rest → breaks .hugeCode) :
    Gives text breaks (fun read => read.2.StandsIn text) (quotedEscape started c) := by
  have escape : ∀ char, escapeOf? c.peek = some char → c.next.StandsIn text := fun char found =>
    stands.next_of_ne fun same => by rw [same] at found; simp [escapeOf?] at found
  have width : ∀ n, escapeWidth? c.peek = some n → c.next.StandsIn text := fun n found =>
    stands.next_of_ne fun same => by rw [same] at found; simp [escapeWidth?] at found
  unfold quotedEscape
  split
  · rename_i found
    exact escape _ found
  · rename_i found
    split
    · exact problemWhile_isOf (width _ found).isPlace
    · rename_i code read
      refine (escapedCharacter_gives ((width _ found).skip_hexAt read) fun large => ?_).bind fun _ behind => behind
      obtain ⟨digits, front, count, all, spelled⟩ := hexAt_eq_ok read
      -- Only eight digits reach that far.
      have bound := ofDigits_hexadecimal_lt digits
      rw [spelled, count] at bound
      unfold escapeWidth? at found
      split at found
      · obtain rfl := Option.some.inj found
        exact absurd (Nat.lt_trans large bound) (by decide)
      · obtain rfl := Option.some.inj found
        exact absurd (Nat.lt_trans large bound) (by decide)
      · rename_i letter
        obtain rfl := Option.some.inj found
        obtain ⟨rest, here⟩ := Cursor.rest_eq_cons letter (by decide)
        rw [Cursor.next_rest, here, List.tail_cons] at front
        exact huge digits ⟨count, all, spelled ▸ large⟩ (here ▸ (List.prefix_cons_inj 'U').mpr front)
      · simp at found
  · rename_i broken
    exact quotedBreaks_gives (stands.behind_lineBreak broken)
  · exact problemWhile_isOf stands.isPlace

/-- The text of a quoted scalar up to a blank or its end. -/
theorem quotedRun_gives {double : Bool} {fuel : Nat} (stands : c.StandsIn text)
    (huge : HoldsHugeCode text → breaks .hugeCode) :
    Gives text breaks (fun read => read.2.StandsIn text) (quotedRun double started fuel c) := by
  -- Induction on the fuel: characters that mean themselves, and then a sign that may mean another one.
  induction fuel generalizing c with
  | zero => exact stands
  | succ fuel ih =>
    have behind : (c.takeRun isOrdinary).2.StandsIn text := stands.takeRun (by decide)
    rw [quotedRun]
    generalize c.takeRun isOrdinary = taken at behind ⊢
    obtain ⟨run, c⟩ := taken
    dsimp only at behind ⊢
    -- Whatever the sign stands for, what is behind it is read in the same way.
    have goOn : ∀ (more : List Char) (c : Cursor), c.StandsIn text →
        Gives text breaks (fun read => read.2.StandsIn text) (do
          let read ← quotedRun double started fuel c
          return (run ++ more ++ read.1, read.2)) :=
      fun more c stands => (ih stands).bind fun _ behind => behind
    split
    · split
      · rename_i quote
        exact goOn _ _ (behind.next_over (eq_of_beq quote) (by decide))
      · split
        · rename_i backslash
          have here := eq_of_beq backslash
          have next := behind.next_over here (by decide)
          refine (quotedEscape_gives next fun digits code letter => ?_).bind fun read stands =>
            goOn read.1 read.2 stands
          -- The letter and its digits are right behind the backslash.
          obtain ⟨rest, front⟩ := Cursor.rest_eq_cons here (by decide)
          rw [Cursor.next_rest, front, List.tail_cons] at letter
          refine huge ⟨digits, code, ((List.prefix_cons_inj '\\').mpr letter).isInfix.trans ?_⟩
          exact front ▸ behind.rest_suffix.isInfix
        · exact behind
    · -- Between single quotes two of them stand for one.
      split
      · rename_i quotes
        simp only [Bool.and_eq_true, beq_iff_eq] at quotes
        exact goOn _ _ (behind.skip_two (by rw [quotes.1]; decide) (by rw [quotes.2]; decide))
      · split
        · rename_i sign
          simp only [Bool.or_eq_true, beq_iff_eq] at sign
          rcases sign with quote | backslash
          · exact goOn _ _ (behind.next_over quote (by decide))
          · exact goOn _ _ (behind.next_over backslash (by decide))
        · exact behind

/-- The blanks and breaks of a quoted scalar. -/
theorem quotedGap_gives (stands : c.StandsIn text) :
    Gives text breaks (fun read => read.2.StandsIn text) (quotedGap started c) := by
  -- The blanks are followed by a line break or by more of the scalar, and at the end of the text neither can come.
  have behind : (c.takeRun fun char => char == ' ' || char == '\t').2.StandsIn text :=
    stands.takeRun (by decide)
  unfold quotedGap
  generalize c.takeRun (fun char => char == ' ' || char == '\t') = taken at behind ⊢
  obtain ⟨blanks, c⟩ := taken
  dsimp only at behind ⊢
  split
  · exact problemWhile_isOf behind.isPlace
  · split
    · exact behind
    · rename_i broken
      exact (quotedBreaks_gives (behind.behind_lineBreak broken)).bind fun _ stands => stands

/-- What is left of a quoted scalar up to its closing quote. -/
theorem quotedFrom_gives {double : Bool} {fuel : Nat} (stands : c.StandsIn text)
    (huge : HoldsHugeCode text → breaks .hugeCode) :
    Gives text breaks (fun read => read.2.StandsIn text) (quotedFrom double started fuel c) := by
  -- Induction on the fuel: a gap and a run, until the closing quote is there.
  induction fuel generalizing c with
  | zero => exact problemWhile_isOf stands.isPlace
  | succ fuel ih =>
    rw [quotedFrom]
    by_cases closing : (c.peek == (if double then '"' else '\'')) = true
    · rw [if_pos closing]
      exact stands.next_over (eq_of_beq closing) (by cases double <;> decide)
    · rw [if_neg closing]
      refine (quotedGap_gives stands).bind fun _ stands => ?_
      refine (quotedRun_gives stands huge).bind fun _ stands => ?_
      exact (ih stands).bind fun _ stands => stands

/-- A quoted scalar, at whose opening quote the cursor stands. -/
theorem readQuoted_gives {double : Bool} (stands : c.StandsIn text) (quote : c.peek ≠ '\r')
    (huge : HoldsHugeCode text → breaks .hugeCode) :
    Gives text breaks (fun read => read.2.StandsIn text) (readQuoted double c) := by
  -- A run, and then gaps and runs in turn up to the closing quote.
  refine (quotedRun_gives (stands.next_of_ne quote) huge).bind fun _ stands => ?_
  exact (quotedFrom_gives stands huge).bind fun _ stands => stands

end PlanLint
