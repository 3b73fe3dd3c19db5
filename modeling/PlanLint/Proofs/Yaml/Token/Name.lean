import PlanLint.Proofs.Yaml.Failure
import PlanLint.Yaml.Token.Name

/-! Names, tags and directives are read from one place of a text to another, and every failure belongs to
the text. -/

namespace PlanLint

variable {text : List Char} {breaks : Breakdown → Prop} {c : Cursor} {started : Mark} {activity : Activity}

/-- The name of an anchor or of an alias, at whose sign the cursor stands. -/
theorem readAnchor_gives (stands : c.StandsIn text) (sign : c.peek ≠ '\r') :
    Gives text breaks (fun read => read.2.StandsIn text) (readAnchor activity c) := by
  have behind : (c.next.takeRun isAnchorCharacter).2.StandsIn text :=
    (stands.next_of_ne sign).takeRun (by decide)
  -- Behind the name a character that cannot follow it is a problem.
  unfold readAnchor
  generalize c.next.takeRun isAnchorCharacter = taken at behind ⊢
  obtain ⟨name, after⟩ := taken
  dsimp only at behind ⊢
  split
  · exact problemWhile_isOf behind.isPlace
  · exact behind

/-- The escapes in an address. -/
theorem readAddressEscapes_gives {fuel : Nat} (stands : c.StandsIn text) :
    Gives text breaks (fun read => read.2.StandsIn text) (readAddressEscapes activity started fuel c) := by
  induction fuel generalizing c with
  | zero => exact stands
  | succ fuel ih =>
    rw [readAddressEscapes]
    split
    · rename_i percent
      have here := eq_of_beq percent
      split
      · exact problemWhile_isOf (stands.next_over here (by decide)).isPlace
      · rename_i digits
        refine (ih (stands.skip fun i below => ?_)).bind fun _ stands => stands
        -- A percent sign and two digits.
        simp only [readAddressEscapes.hexAt2, List.find?_eq_none, Cursor.ahead_next] at digits
        obtain rfl | rfl | rfl : i = 0 ∨ i = 1 ∨ i = 2 := by omega
        · rw [Cursor.ahead_zero, here]; decide
        · exact fun same => digits (c.ahead 1) (by simp) (by rw [same]; decide)
        · exact fun same => digits (c.ahead 2) (by simp) (by rw [same]; decide)
    · exact stands

/-- An address, possibly none. -/
theorem readAddressFrom_gives {first : Bool} {fuel : Nat} (stands : c.StandsIn text) :
    Gives text breaks (fun read => read.2.StandsIn text) (readAddressFrom first activity started fuel c) := by
  -- Induction on the fuel: a run, and escapes behind which the address goes on.
  induction fuel generalizing c with
  | zero => exact stands
  | succ fuel ih =>
    have behind : (c.takeRun fun char => isAddressCharacter first char && char != '%').2.StandsIn text :=
      stands.takeRun (by cases first <;> decide)
    rw [readAddressFrom]
    generalize c.takeRun (fun char => isAddressCharacter first char && char != '%') = taken at behind ⊢
    obtain ⟨run, after⟩ := taken
    dsimp only at behind ⊢
    split
    · refine (readAddressEscapes_gives behind).bind fun _ stands => ?_
      exact (ih stands).bind fun _ stands => stands
    · exact behind

/-- An address that must not be empty. -/
theorem readAddress_gives {first : Bool} {handle address : Activity} (stands : c.StandsIn text) :
    Gives text breaks (fun read => read.2.StandsIn text) (readAddress first handle address started c) := by
  -- An empty address is a problem at the place where it should stand.
  unfold readAddress
  refine (readAddressFrom_gives stands).bind fun read stands => ?_
  obtain ⟨run, c⟩ := read
  dsimp only at stands ⊢
  split
  · exact problemWhile_isOf stands.isPlace
  · exact stands

/-- The handle of a tag. -/
theorem readHandle_gives (stands : c.StandsIn text) :
    Gives text breaks (fun read => read.2.StandsIn text) (readHandle activity started c) := by
  -- A single sign, two of them, or a word between two.
  unfold readHandle
  split
  · exact problemWhile_isOf stands.isPlace
  · rename_i here
    have sign : c.peek = '!' := by simpa using here
    have next := stands.next_over sign (by decide)
    split
    · exact next
    · have behind : (c.next.takeRun fun char => isWordCharacter char || char == '-' || char == '_').2.StandsIn
          text := next.takeRun (by decide)
      generalize c.next.takeRun (fun char => isWordCharacter char || char == '-' || char == '_') = taken
        at behind ⊢
      obtain ⟨word, after⟩ := taken
      dsimp only at behind ⊢
      split
      · rename_i mark
        exact behind.next_over (eq_of_beq mark) (by decide)
      · exact problemWhile_isOf behind.isPlace

/-- A tag behind its signs, at the last of which the cursor stands. -/
theorem readShortTag_gives {first : Bool} {signs : List Char} (stands : c.StandsIn text)
    (sign : c.peek ≠ '\r') :
    Gives text breaks (fun read => read.2.StandsIn text) (readShortTag first started signs c) := by
  -- With a handle the tag has two parts, and without one the address follows the sign.
  unfold readShortTag
  split
  · refine (readHandle_gives stands).bind fun _ stands => ?_
    exact (readAddress_gives stands).bind fun _ stands => stands
  · exact (readAddress_gives (stands.next_of_ne sign)).bind fun _ stands => stands

/-- A tag between angle brackets. -/
theorem readBracketTag_gives {first : Bool} (stands : c.StandsIn text) :
    Gives text breaks (fun read => read.2.StandsIn text) (readBracketTag first started c) := by
  -- The address has to end at the closing bracket, over which the cursor steps.
  unfold readBracketTag
  refine (readAddress_gives stands).bind fun read stands => ?_
  obtain ⟨suffix, c⟩ := read
  dsimp only at stands ⊢
  split
  · exact problemWhile_isOf stands.isPlace
  · rename_i closing
    have here : c.peek = '>' := by simpa using closing
    exact stands.next_over here (by decide)

/-- A tag, at whose first sign the cursor stands. -/
theorem readTag_gives {first : Bool} (stands : c.StandsIn text) (sign : c.peek = '!') :
    Gives text breaks (fun read => read.2.StandsIn text) (readTag first c) := by
  -- The last of the signs is an exclamation mark too.
  have last : ∀ double, (c.ahead 1 == '!') = double →
      (if double then c.next else c).StandsIn text ∧ (if double then c.next else c).peek = '!' := by
    intro double isDouble
    cases double with
    | true =>
      refine ⟨stands.next_over sign (by decide), ?_⟩
      rw [if_pos rfl, ← Cursor.ahead_zero, Cursor.ahead_next]
      exact eq_of_beq isDouble
    | false => exact ⟨stands, sign⟩
  obtain ⟨stands', sign'⟩ := last _ rfl
  -- Every form of a tag ends in the same way.
  have ended : ∀ read : TagName × Cursor, read.2.StandsIn text →
      Gives text breaks (fun read => read.2.StandsIn text) (do
        if !endsName read.2.peek then
          throw (problemWhile .tag c.mark read.2.mark (.expectedSpace read.2.peek))
        return (read.1, read.2) : Except ReadError (TagName × Cursor)) := by
    intro read behind
    split
    · exact problemWhile_isOf behind.isPlace
    · exact behind
  unfold readTag
  dsimp only
  -- From here on only the last sign matters, not how many there are.
  generalize (if (c.ahead 1 == '!') = true then c.next else c) = last at stands' sign' ⊢
  have next := stands'.next_over sign' (by decide)
  split
  · rename_i bracket
    have behind := stands'.skip_two (by rw [sign']; decide) (by rw [eq_of_beq bracket]; decide)
    exact (readBracketTag_gives behind).bind ended
  · split
    · exact ended _ next
    · exact (readShortTag_gives stands' (by rw [sign']; decide)).bind ended

/-- The digits of a number. -/
structure SpellsNumber (digits : List Char) (number : Nat) : Prop where
  nonempty : digits ≠ []
  decimal : ∀ digit ∈ digits, isAsciiDigit digit = true
  value : ofDigits 10 (digits.filterMap hexValue?) = number

/-- The text of a version: two numbers with a point between them, behind spaces. -/
def SpellsVersion (spelled : List Char) (major minor : Nat) : Prop :=
  ∃ spaces first second, spelled = spaces ++ first ++ '.' :: second ∧ (∀ space ∈ spaces, space = ' ') ∧
    SpellsNumber first major ∧ SpellsNumber second minor

/-- The directive of a version stands in a text. -/
def HoldsVersion (text : List Char) (major minor : Nat) : Prop :=
  ∃ spelled, SpellsVersion spelled major minor ∧ ['%', 'Y', 'A', 'M', 'L'] ++ spelled <:+: text

/-- The name of a directive stands at its cursor. -/
theorem readDirectiveName_gives (stands : c.StandsIn text) :
    Gives text breaks (fun read => read.2.StandsIn text ∧ read.1 ++ read.2.rest = c.rest)
      (readDirectiveName started c) := by
  have behind : (c.takeRun fun char => isWordCharacter char || "-_:.".toList.contains char).2.StandsIn text :=
    stands.takeRun (by decide)
  -- The name is what is taken from the cursor, so that it stands there in the text.
  have whole := c.takeRun_append fun char => isWordCharacter char || "-_:.".toList.contains char
  unfold readDirectiveName
  generalize c.takeRun (fun char => isWordCharacter char || "-_:.".toList.contains char) = taken
    at behind whole ⊢
  obtain ⟨name, after⟩ := taken
  dsimp only at behind whole ⊢
  split
  · exact problemWhile_isOf behind.isPlace
  · exact ⟨behind, whole⟩

/-- A number in a directive. -/
theorem readDirectiveNumber_gives (stands : c.StandsIn text) :
    Gives text breaks (fun read => read.2.StandsIn text ∧
      ∃ digits, SpellsNumber digits read.1 ∧ digits ++ read.2.rest = c.rest) (readDirectiveNumber started c) := by
  have behind : (c.takeRun isAsciiDigit).2.StandsIn text := stands.takeRun (by decide)
  have whole := c.takeRun_append isAsciiDigit
  have all : ∀ digit ∈ (c.takeRun isAsciiDigit).1, isAsciiDigit digit = true :=
    List.all_eq_true.mp List.all_takeWhile
  unfold readDirectiveNumber
  generalize c.takeRun isAsciiDigit = taken at behind whole all ⊢
  obtain ⟨digits, after⟩ := taken
  -- Without a digit there is no number, and one with too many is not read.
  split
  · rename_i same
    cases same
    exact problemWhile_isOf behind.isPlace
  · rename_i nonempty same
    cases same
    split
    · exact problemOf_isOf
    · exact ⟨behind, digits, ⟨nonempty, all, rfl⟩, whole⟩

/-- The version in a directive. -/
theorem readVersion_gives (stands : c.StandsIn text) :
    Gives text breaks (fun read => read.2.StandsIn text ∧
      ∃ major minor spelled, read.1 = .version major minor ∧ SpellsVersion spelled major minor ∧
        spelled <+: c.rest) (readVersion started c) := by
  have spaced := c.takeRun_append (· == ' ')
  have spaces : ∀ space ∈ (c.takeRun (· == ' ')).1, space = ' ' := fun space member =>
    eq_of_beq (List.all_eq_true.mp List.all_takeWhile space member)
  unfold readVersion
  refine (readDirectiveNumber_gives stands.skip_spaces).bind fun read held => ?_
  obtain ⟨major, c'⟩ := read
  obtain ⟨stands, first, major_spelled, first_whole⟩ := held
  dsimp only at stands major_spelled first_whole ⊢
  split
  · exact problemWhile_isOf stands.isPlace
  · rename_i point
    have here : c'.peek = '.' := by simpa using point
    refine (readDirectiveNumber_gives (stands.next_over here (by decide))).bind fun read held => ?_
    obtain ⟨minor, c''⟩ := read
    obtain ⟨stands, second, minor_spelled, second_whole⟩ := held
    dsimp only at stands minor_spelled second_whole ⊢
    split
    · exact problemWhile_isOf stands.isPlace
    · refine ⟨stands, major, minor, _, rfl, ⟨_, first, second, rfl, spaces, major_spelled, minor_spelled⟩, ?_⟩
      -- Spaces, a number, a point and a number, one behind the other.
      obtain ⟨rest, front⟩ := Cursor.rest_eq_cons here (by decide)
      rw [Cursor.next_rest, front, List.tail_cons] at second_whole
      refine ⟨c''.rest, ?_⟩
      rw [← spaced, ← Cursor.skipRun, ← first_whole, front, ← second_whole]
      simp

/-- The handle that a directive declares. -/
theorem readHandleDirective_gives {first : Bool} (stands : c.StandsIn text) :
    Gives text breaks (fun read => read.2.StandsIn text ∧ ∃ name start, read.1 = .handle name start)
      (readHandleDirective first started c) := by
  unfold readHandleDirective
  refine (readHandle_gives stands.skip_spaces).bind fun read stands => ?_
  obtain ⟨handle, c⟩ := read
  dsimp only at stands ⊢
  -- A space has to follow the handle, and the end of a word the address behind it.
  split
  · exact problemWhile_isOf stands.isPlace
  · refine (readAddress_gives stands.skip_spaces).bind fun read stands => ?_
    obtain ⟨start, c⟩ := read
    dsimp only at stands ⊢
    split
    · exact problemWhile_isOf stands.isPlace
    · exact ⟨stands, _, _, rfl⟩

/-- A directive of a text; one that names a version is written as such. -/
structure DirectiveLine.IsOf (text : List Char) (line : DirectiveLine) : Prop where
  stop : line.stop.IsPlaceOf text
  cursor : line.cursor.StandsIn text
  version : ∀ major minor, line.directive = .version major minor → HoldsVersion text major minor

/-- The line of a directive up to its end. -/
theorem directiveEnd_gives {directive : Directive} {stop : Mark} (stands : c.StandsIn text)
    (place : stop.IsPlaceOf text)
    (version : ∀ major minor, directive = .version major minor → HoldsVersion text major minor) :
    Gives text breaks (·.IsOf text) (do
      let c := c.skipRun (· == ' ')
      let c := if c.peek == '#' then c.skipRun fun char => !endsLine char else c
      if endsLine c.peek then return ⟨directive, stop, c.skipBreak⟩
      else throw (problemWhile .directive started c.mark (.textBehindHeader c.peek)) :
      Except ReadError DirectiveLine) := by
  -- Spaces and a comment may stand behind a directive.
  have comment := stands.skip_spaces.skip_comment
  dsimp only
  generalize (if (c.skipRun (· == ' ')).peek == '#' then _ else _) = behind at comment ⊢
  split
  · exact ⟨place, comment.skipBreak, version⟩
  · exact problemWhile_isOf comment.isPlace

/-- A directive, at whose percent sign the cursor stands. -/
theorem readDirective_gives {first : Bool} (stands : c.StandsIn text) (sign : c.peek = '%') :
    Gives text breaks (·.IsOf text) (readDirective first c) := by
  unfold readDirective
  refine (readDirectiveName_gives (stands.next_over sign (by decide))).bind fun read named => ?_
  obtain ⟨name, after⟩ := read
  obtain ⟨behind, whole⟩ := named
  dsimp only at behind whole ⊢
  split
  · rename_i spelled
    refine (readVersion_gives behind).bind fun read held => ?_
    obtain ⟨directive, ended⟩ := read
    obtain ⟨number, major, minor, version, rfl, spells, front⟩ := held
    refine directiveEnd_gives number number.isPlace fun major' minor' same => ?_
    obtain ⟨rfl, rfl⟩ : major = major' ∧ minor = minor' := by simpa using same
    -- The name is right behind the percent sign, and the version right behind the name.
    obtain ⟨rest, here⟩ := Cursor.rest_eq_cons sign (by decide)
    rw [eq_of_beq spelled, Cursor.next_rest, here, List.tail_cons] at whole
    refine ⟨version, spells, List.IsInfix.trans ?_ stands.rest_suffix.isInfix⟩
    rw [here, ← whole]
    exact ((List.prefix_append_right_inj ['%', 'Y', 'A', 'M', 'L']).mpr front).isInfix
  · split
    · refine (readHandleDirective_gives behind).bind fun read held => ?_
      obtain ⟨directive, after⟩ := read
      obtain ⟨stands, handle, start, rfl⟩ := held
      exact directiveEnd_gives stands stands.isPlace fun _ _ same => by simp at same
    · exact directiveEnd_gives behind.skip_line behind.isPlace fun _ _ same => by simp at same

end PlanLint
