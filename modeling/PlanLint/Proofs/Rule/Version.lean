import PlanLint.Rule.TopLevel
import Mathlib.Data.List.DropRight

/-! Versions as they are written, and that the longest one that a text begins with is read. -/

namespace PlanLint

/-- The comparators that can stand before a version. -/
def comparators : List (List Char) := [['>', '='], ['>'], ['<', '='], ['<'], ['=']]

/-- A number, in decimal digits of any scripts. -/
def IsDigits (text : List Char) : Prop := text ≠ [] ∧ ∀ c ∈ text, isDecimalDigit c = true

/-- The third number of a version, with the dot before it. -/
def patchText (patch : Option (List Char)) : Option (List Char) := patch.map ('.' :: ·)

/-- A version as it is written: a comparator or none, blanks, and two or three numbers. -/
structure WrittenVersion where
  comparator : Option (List Char)
  blanks : List Char
  major : List Char
  minor : List Char
  patch : Option (List Char)
  known : ∀ sign ∈ comparator, sign ∈ comparators
  silent : ∀ c ∈ blanks, isBlank c = true
  isMajor : IsDigits major
  isMinor : IsDigits minor
  isPatch : ∀ digits ∈ patch, IsDigits digits

/-- The text of a version. -/
def WrittenVersion.text (version : WrittenVersion) : List Char :=
  version.comparator.getD [] ++ version.blanks ++ version.major ++ '.' :: version.minor ++
    (patchText version.patch).getD []

/-- A version as the beginning of a text. -/
def WrittenVersion.found (version : WrittenVersion) : VersionMatch :=
  ⟨version.text.length, version.comparator, patchText version.patch⟩

/-- A text begins with a version, and with none that is longer. -/
structure WrittenVersion.IsLongestIn (text : List Char) (version : WrittenVersion) : Prop where
  begins : version.text <+: text
  longest : ∀ other : WrittenVersion, other.text <+: text → other.text.length ≤ version.text.length

/-- What stands behind a version does not go on with it. -/
structure WrittenVersion.Ends (version : WrittenVersion) (behind : List Char) : Prop where
  stops : behind.head?.any isDecimalDigit = false
  whole : version.patch = none → ∀ c rest, behind = '.' :: c :: rest → isDecimalDigit c = false

/-- A known comparator or none can stand before a version. -/
theorem exists_comparator {signs : List Char} (known : signs ∈ comparators ∨ signs = []) :
    ∃ comparator : Option (List Char), (∀ sign ∈ comparator, sign ∈ comparators) ∧ comparator.getD [] = signs := by
  -- Empty signs stand for no comparator.
  rcases known with known | rfl
  · refine ⟨some signs, ?_, rfl⟩
    intro sign same
    exact Option.some.inj same ▸ known
  · exact ⟨none, by simp, rfl⟩

section Longest

variable {text behind : List Char} {version : WrittenVersion}

/-- A number goes on with a digit. -/
theorem IsDigits.concat {digits : List Char} {c : Char} (number : IsDigits digits)
    (digit : isDecimalDigit c = true) :
    IsDigits (digits ++ [c]) := by
  -- The digits in front are known, and the last one is the new one.
  refine ⟨by simp, ?_⟩
  intro d member
  rcases List.mem_append.mp member with early | last
  · exact number.2 d early
  · exact List.mem_singleton.mp last ▸ digit

/-- A version that goes on with a digit is a version. -/
theorem WrittenVersion.exists_concat (version : WrittenVersion) {c : Char} (digit : isDecimalDigit c = true) :
    ∃ longer : WrittenVersion, longer.text = version.text ++ [c] := by
  -- The digit belongs to the last number that there is.
  cases third : version.patch with
  | none =>
    refine ⟨{ version with minor := version.minor ++ [c], isMinor := version.isMinor.concat digit }, ?_⟩
    simp [text, third, patchText]
  | some digits =>
    have number := version.isPatch digits third
    refine ⟨{ version with patch := some (digits ++ [c]), isPatch := ?_ }, ?_⟩
    · intro more same
      obtain rfl := Option.some.inj same
      exact number.concat digit
    · simp [text, third, patchText]

/-- A version of two numbers that goes on with a dot and a digit is a version. -/
theorem WrittenVersion.exists_concat_patch (version : WrittenVersion) (short : version.patch = none) {c : Char}
    (digit : isDecimalDigit c = true) : ∃ longer : WrittenVersion, longer.text = version.text ++ ['.', c] := by
  -- The digit alone is a third number.
  refine ⟨{ version with patch := some [c], isPatch := ?_ }, ?_⟩
  · intro digits same
    obtain rfl := Option.some.inj same
    exact ⟨by simp, by simpa using digit⟩
  · simp [text, short, patchText]

/-- The longest version that a text begins with ends there. -/
theorem WrittenVersion.IsLongestIn.ends (longest : version.IsLongestIn (version.text ++ behind)) :
    version.Ends behind := by
  -- A version that goes on would be longer.
  have stays : ∀ (longer : WrittenVersion) (more rest : List Char), behind = more ++ rest →
      longer.text = version.text ++ more → more = [] := by
    rintro longer more rest rfl written
    have limit := longest.longest longer (by rw [written]; exact ⟨rest, by simp⟩)
    rw [written, List.length_append] at limit
    exact List.eq_nil_of_length_eq_zero (by omega)
  constructor
  · -- A digit behind it would belong to its last number.
    cases behind with
    | nil => rfl
    | cons c rest =>
      rw [List.head?_cons, Option.any_some]
      cases digit : isDecimalDigit c with
      | false => rfl
      | true =>
        obtain ⟨longer, written⟩ := version.exists_concat digit
        exact absurd (stays longer [c] rest rfl written) (List.cons_ne_nil _ _)
  · -- A dot and a digit behind two numbers would begin a third one.
    rintro short c rest rfl
    cases digit : isDecimalDigit c with
    | false => rfl
    | true =>
      obtain ⟨longer, written⟩ := version.exists_concat_patch short digit
      exact absurd (stays longer ['.', c] rest rfl written) (List.cons_ne_nil _ _)

/-- A text that begins with a version begins with a longest one. -/
theorem WrittenVersion.exists_longest (begins : version.text <+: text) :
    ∃ longest : WrittenVersion, longest.IsLongestIn text := by
  -- Going on from one version to a longer one comes to an end, since all of them are within the text.
  induction room : text.length - version.text.length using Nat.strongRecOn generalizing version with
  | ind room ih =>
    by_cases more : ∃ other : WrittenVersion, other.text <+: text ∧ version.text.length < other.text.length
    · obtain ⟨other, also, longer⟩ := more
      have inside := also.length_le
      exact ih (text.length - other.text.length) (by omega) also rfl
    · refine ⟨version, begins, ?_⟩
      intro other also
      exact Nat.le_of_not_lt fun longer => more ⟨other, also, longer⟩

end Longest

/-- A reader of versions reads each version that ends where it does, and nothing else. -/
structure ReadsVersions (read : List Char → Option VersionMatch) : Prop where
  whole : ∀ (version : WrittenVersion) (behind : List Char), version.Ends behind →
    read (version.text ++ behind) = some version.found
  only : ∀ text, (read text).isSome = true → ∃ version : WrittenVersion, version.text <+: text

section Reader

variable {read other : List Char → Option VersionMatch}

/-- It reads the longest version that a text begins with. -/
theorem ReadsVersions.of_longest (reads : ReadsVersions read) {text : List Char} {version : WrittenVersion}
    (longest : version.IsLongestIn text) : read text = some version.found := by
  -- Behind the longest version nothing follows that it could go on with.
  obtain ⟨behind, rfl⟩ := longest.begins
  exact reads.whole version behind longest.ends

/-- It reads something exactly if the text begins with a version. -/
theorem ReadsVersions.isSome_iff (reads : ReadsVersions read) (text : List Char) :
    (read text).isSome = true ↔ ∃ version : WrittenVersion, version.text <+: text := by
  -- A text that begins with some version begins with a longest one, and that is read.
  constructor
  · exact reads.only text
  · rintro ⟨version, begins⟩
    obtain ⟨longest, is⟩ := version.exists_longest begins
    rw [reads.of_longest is]
    rfl

/-- What it reads is the longest version that the text begins with. -/
theorem ReadsVersions.eq_some_iff (reads : ReadsVersions read) (text : List Char) (found : VersionMatch) :
    read text = some found ↔ ∃ version : WrittenVersion, version.IsLongestIn text ∧ version.found = found := by
  -- What is read comes from some version, and then it is the longest one that is read.
  constructor
  · intro held
    obtain ⟨version, begins⟩ := reads.only text (by rw [held]; rfl)
    obtain ⟨longest, is⟩ := version.exists_longest begins
    refine ⟨longest, is, ?_⟩
    rw [reads.of_longest is] at held
    exact Option.some.inj held
  · rintro ⟨version, longest, rfl⟩
    exact reads.of_longest longest

/-- Any two readers read the same. -/
theorem ReadsVersions.unique (reads : ReadsVersions read) (also : ReadsVersions other) (text : List Char) :
    read text = other text := by
  -- What is read is told by the text alone.
  ext found
  rw [reads.eq_some_iff, also.eq_some_iff]

end Reader

section Kinds

variable {c : Char} {run rest : List Char}

/-- No digit is a blank. -/
theorem isBlank_of_isDecimalDigit (digit : isDecimalDigit c = true) : isBlank c = false := by
  -- No run of ten digits meets any of the ranges that blanks are in.
  have apart : ∀ nought ∈ digitZeros, 32 < nought ∧ (nought + 10 ≤ 0x85 ∨ 0xA0 < nought) ∧
      (nought + 10 ≤ 0x1680 ∨ 0x1680 < nought) ∧ (nought + 10 ≤ 0x2000 ∨ 0x205F < nought) ∧
      (nought + 10 ≤ 0x3000 ∨ 0x3000 < nought) := by
    decide
  simp only [isDecimalDigit, decimalValue?, Option.isSome_map, List.find?_isSome, Bool.and_eq_true,
    decide_eq_true_eq] at digit
  obtain ⟨nought, member, low, high⟩ := digit
  have away := apart nought member
  rw [← Bool.not_eq_true]
  simp only [isBlank, Bool.or_eq_true, Bool.and_eq_true, decide_eq_true_eq, beq_iff_eq]
  omega

/-- The dot between numbers is no digit. -/
theorem isDecimalDigit_dot : isDecimalDigit '.' = false := by decide

/-- A run is taken up to where it stops. -/
theorem takeWhile_run {among : Char → Bool} (all : ∀ c ∈ run, among c = true)
    (stops : rest.head?.any among = false) : (run ++ rest).takeWhile among = run := by
  -- Behind the run there is nothing, or something that does not belong to it.
  rw [List.takeWhile_append_of_pos all]
  cases rest with
  | nil => simp
  | cons c rest =>
    have other : among c = false := by simpa using stops
    simp [other]

/-- What is behind a run is left. -/
theorem dropWhile_run {among : Char → Bool} (all : ∀ c ∈ run, among c = true)
    (stops : rest.head?.any among = false) : (run ++ rest).dropWhile among = rest := by
  -- Behind the run there is nothing, or something that does not belong to it.
  rw [List.dropWhile_append_of_pos all]
  cases rest with
  | nil => rfl
  | cons c rest =>
    have other : among c = false := by simpa using stops
    simp [other]

/-- A number does not begin with a blank. -/
theorem IsDigits.head?_isBlank (number : IsDigits run) (rest : List Char) :
    (run ++ rest).head?.any isBlank = false := by
  -- It begins with a digit, and no digit is a blank.
  obtain ⟨c, run, rfl⟩ := List.exists_cons_of_ne_nil number.1
  exact isBlank_of_isDecimalDigit (number.2 c (List.mem_cons_self ..))

end Kinds

section Parts

variable {version : WrittenVersion} {behind : List Char}

/-- The numbers of a version, with what stands behind them. -/
def WrittenVersion.numbers (version : WrittenVersion) (behind : List Char) : List Char :=
  version.major ++ '.' :: (version.minor ++ ((patchText version.patch).getD [] ++ behind))

/-- A version is a comparator, blanks and numbers. -/
theorem WrittenVersion.text_append (version : WrittenVersion) (behind : List Char) :
    version.text ++ behind = version.comparator.getD [] ++ (version.blanks ++ version.numbers behind) := by
  -- The parts are only put in brackets differently.
  simp [text, numbers]

/-- Behind its comparator a version does not begin with the sign of one. -/
theorem WrittenVersion.head?_blanks (version : WrittenVersion) (behind : List Char) :
    ∃ c rest, version.blanks ++ version.numbers behind = c :: rest ∧ c ≠ '>' ∧ c ≠ '<' ∧ c ≠ '=' := by
  -- It begins with a blank or a digit, and none of the signs is either.
  have plain : ∀ {c : Char}, isBlank c = true ∨ isDecimalDigit c = true → c ≠ '>' ∧ c ≠ '<' ∧ c ≠ '=' := by
    intro c kind
    refine ⟨?_, ?_, ?_⟩ <;> rintro rfl <;> revert kind <;> decide
  cases blanks : version.blanks with
  | nil =>
    obtain ⟨c, digits, same⟩ := List.exists_cons_of_ne_nil version.isMajor.1
    refine ⟨c, digits ++ _, by rw [numbers, same]; rfl, plain (.inr (version.isMajor.2 c ?_))⟩
    rw [same]
    exact List.mem_cons_self ..
  | cons c blanks' =>
    refine ⟨c, _, rfl, plain (.inl (version.silent c ?_))⟩
    rw [blanks]
    exact List.mem_cons_self ..

/-- Numbers do not begin with a blank. -/
theorem WrittenVersion.numbers_stops (version : WrittenVersion) (behind : List Char) :
    (version.numbers behind).head?.any isBlank = false :=
  version.isMajor.head?_isBlank _

/-- The second number ends where the third one or something else begins. -/
theorem WrittenVersion.Ends.patch_stops (ends : version.Ends behind) :
    ((patchText version.patch).getD [] ++ behind).head?.any isDecimalDigit = false := by
  -- A third number starts with a dot, which is no digit.
  cases third : version.patch with
  | none => exact ends.stops
  | some digits => exact isDecimalDigit_dot

end Parts

section Matcher

variable {version : WrittenVersion} {behind : List Char}

/-- The comparator of a version is the one that its text begins with. -/
theorem leadingComparator_append (version : WrittenVersion) (behind : List Char) :
    leadingComparator (version.text ++ behind) = version.comparator.getD [] := by
  obtain ⟨c, rest, plain, more, less, same⟩ := version.head?_blanks behind
  rw [version.text_append, plain]
  cases written : version.comparator with
  | none =>
    rw [Option.getD_none, List.nil_append]
    unfold leadingComparator
    split <;> simp_all
  | some sign =>
    -- No equals sign follows, so a shorter comparator is not taken for a longer one.
    have known := version.known sign written
    simp only [comparators, List.mem_cons, List.not_mem_nil, or_false] at known
    rcases known with rfl | rfl | rfl | rfl | rfl <;> simp [leadingComparator, same]

/-- The third number is the one that stands behind the second. -/
theorem leadingPatch_append (ends : version.Ends behind) :
    leadingPatch ((patchText version.patch).getD [] ++ behind) = (patchText version.patch).getD [] := by
  cases third : version.patch with
  | none =>
    simp only [patchText, Option.map_none, Option.getD_none, List.nil_append]
    unfold leadingPatch
    -- Something stands behind the version; if that is a dot, no digit follows it.
    split
    · rename_i rest
      cases rest with
      | nil => rfl
      | cons c rest =>
        have other := ends.whole third c rest rfl
        simp [other]
    · rfl
  | some digits =>
    obtain ⟨nonempty, all⟩ := version.isPatch digits third
    simp only [patchText, Option.map_some, Option.getD_some, List.cons_append, leadingPatch]
    rw [takeWhile_run all ends.stops]
    cases digits with
    | nil => exact absurd rfl nonempty
    | cons c digits => rfl

/-- The groups of a version are its comparator and its third number. -/
theorem nonEmpty?_comparator (version : WrittenVersion) :
    nonEmpty? (version.comparator.getD []) = version.comparator := by
  -- None of the comparators is empty, so that an empty group means none.
  cases written : version.comparator with
  | none => rfl
  | some sign =>
    have known := version.known sign written
    simp only [comparators, List.mem_cons, List.not_mem_nil, or_false] at known
    rcases known with rfl | rfl | rfl | rfl | rfl <;> rfl

theorem nonEmpty?_patchText (patch : Option (List Char)) :
    nonEmpty? ((patchText patch).getD []) = patchText patch := by
  -- The text of a third number starts with its dot.
  cases patch <;> rfl

/-- Behind the comparator and blanks the numbers begin. -/
theorem trimStart_drop_comparator (version : WrittenVersion) (behind : List Char) :
    trimStart ((version.text ++ behind).drop (version.comparator.getD []).length) = version.numbers behind := by
  -- Behind the comparator only the blanks are trimmed, since no number starts with one.
  rw [version.text_append, List.drop_left]
  exact dropWhile_run version.silent (version.numbers_stops behind)

/-- A version that ends is read as a whole. -/
theorem matchVersion_append (ends : version.Ends behind) :
    matchVersion (version.text ++ behind) = some version.found := by
  -- Each run that the matcher takes is one of the numbers, and what it goes on with is what stands behind that.
  have major : (version.numbers behind).takeWhile isDecimalDigit = version.major :=
    takeWhile_run version.isMajor.2 isDecimalDigit_dot
  have second : (version.numbers behind).drop version.major.length =
      '.' :: (version.minor ++ ((patchText version.patch).getD [] ++ behind)) := List.drop_left
  have minor : (version.minor ++ ((patchText version.patch).getD [] ++ behind)).takeWhile isDecimalDigit =
      version.minor := takeWhile_run version.isMinor.2 ends.patch_stops
  have third : (version.minor ++ ((patchText version.patch).getD [] ++ behind)).drop version.minor.length =
      (patchText version.patch).getD [] ++ behind := List.drop_left
  unfold matchVersion
  simp only [leadingComparator_append, trimStart_drop_comparator, major, second]
  split
  · rename_i rest _ same
    obtain rfl := (List.cons.inj same).2
    simp only [minor, third, leadingPatch_append ends, nonEmpty?_comparator, nonEmpty?_patchText]
    have nonempty : version.minor.isEmpty = false := by simpa using version.isMinor.1
    simp only [nonempty, Bool.false_eq_true, if_false, WrittenVersion.found, Option.some.injEq,
      VersionMatch.mk.injEq,
      and_true]
    -- The length of the numbers is taken off and put on again.
    have whole := congrArg List.length (version.text_append behind)
    have size : version.text.length = (version.comparator.getD []).length + version.blanks.length +
        version.major.length + 1 + version.minor.length + ((patchText version.patch).getD []).length := by
      simp only [WrittenVersion.text, List.length_append, List.length_cons]
      omega
    simp only [List.length_append] at whole ⊢
    omega
  · rename_i fails
    obtain ⟨d, digits, same⟩ := List.exists_cons_of_ne_nil version.isMajor.1
    exact absurd rfl (fails d digits _ same)

/-- The comparator that a text begins with is one of those that are known, or none. -/
theorem leadingComparator_known (text : List Char) :
    leadingComparator text ∈ comparators ∨ leadingComparator text = [] := by
  -- One case for each comparator, and one for none.
  unfold leadingComparator
  split <;> simp [comparators]

/-- The text does begin with it. -/
theorem leadingComparator_begins (text : List Char) : leadingComparator text <+: text := by
  -- One case for each comparator, and one for none.
  unfold leadingComparator
  split
  · exact ⟨_, rfl⟩
  · exact ⟨_, rfl⟩
  · exact ⟨_, rfl⟩
  · exact ⟨_, rfl⟩
  · exact ⟨_, rfl⟩
  · exact List.nil_prefix

/-- What a run takes are characters of its kind. -/
theorem isDigits_takeWhile {text : List Char} (nonempty : text.takeWhile isDecimalDigit ≠ []) :
    IsDigits (text.takeWhile isDecimalDigit) :=
  ⟨nonempty, fun _ member => List.mem_takeWhile_imp member⟩

/-- Where something is read, a version stands. -/
theorem exists_begins_of_matchVersion {text : List Char} (found : (matchVersion text).isSome = true) :
    ∃ version : WrittenVersion, version.text <+: text := by
  obtain ⟨comparator, known, sign⟩ := exists_comparator (leadingComparator_known text)
  -- The text is the comparator, blanks, the first number and the rest, cut off one after the other.
  generalize behind : text.drop (leadingComparator text).length = after
  have whole : leadingComparator text ++ after = text :=
    behind ▸ List.prefix_iff_eq_append.mp (leadingComparator_begins text)
  have blanks : after.takeWhile isBlank ++ trimStart after = after := List.takeWhile_append_dropWhile
  have first : (trimStart after).takeWhile isDecimalDigit <+: trimStart after := List.takeWhile_prefix isDecimalDigit
  have numbers := List.prefix_iff_eq_append.mp first
  unfold matchVersion at found
  simp only [behind] at found
  split at found
  · rename_i rest major second
    split at found
    · simp at found
    · rename_i minor
      -- The third number may be left out, since only some version has to be there.
      have isMajor := isDigits_takeWhile (by rw [major]; exact List.cons_ne_nil _ _)
      have isMinor : IsDigits (rest.takeWhile isDecimalDigit) := isDigits_takeWhile (by simpa using minor)
      refine ⟨⟨comparator, after.takeWhile isBlank, _, _, none, known, fun _ member => List.mem_takeWhile_imp member,
        isMajor, isMinor, by simp⟩, rest.dropWhile isDecimalDigit, ?_⟩
      -- The pieces put together again are the text.
      rw [WrittenVersion.text_append, WrittenVersion.numbers, sign]
      simp only [patchText, Option.map_none, Option.getD_none, List.nil_append, List.takeWhile_append_dropWhile]
      rw [← second, numbers, blanks, whole]
  · simp at found

/-- The matcher reads versions. -/
theorem readsVersions_matchVersion : ReadsVersions matchVersion where
  whole _ _ ends := matchVersion_append ends
  only _ found := exists_begins_of_matchVersion found

end Matcher

end PlanLint
