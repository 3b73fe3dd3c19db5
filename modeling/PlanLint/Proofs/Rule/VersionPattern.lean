import PlanLint.Proofs.Rule.Version
import PlanLint.Proofs.Text.Pattern

/-! The pattern of versions: its texts, what a search with it settles on, and the rule that follows from it. -/

namespace PlanLint

/-- The comparators as a pattern. -/
def comparatorShape : Pattern :=
  .choice (.seq (.char '>') (.char '=')) <| .choice (.char '>') <|
    .choice (.seq (.char '<') (.char '=')) <| .choice (.char '<') (.char '=')

/-- The third number of a version as a pattern. -/
def patchShape : Pattern := .optional (.group 2 (.seq (.char '.') (.plus .digit)))

/-- The second and the third number as a pattern. -/
def minorShape : Pattern := .seq (.plus .digit) patchShape

/-- All numbers as a pattern. -/
def majorShape : Pattern := .seq (.plus .digit) (.seq (.char '.') minorShape)

/-- What stands behind a comparator as a pattern. -/
def numbersShape : Pattern := .seq (.star .blank) majorShape

/-- The pattern of versions. -/
def versionShape : Pattern := .seq .start (.seq (.optional (.group 1 comparatorShape)) numbersShape)

/-- A reading with the pattern of versions as a version. -/
def Reading.version (reading : Reading) : VersionMatch :=
  ⟨reading.read.length, reading.group 1, reading.group 2⟩

/-- What is caught when a version is read, behind what was caught before. -/
def WrittenVersion.catches (version : WrittenVersion) (caught : List (Nat × List Char)) : List (Nat × List Char) :=
  ((patchText version.patch).map (2, ·)).toList ++ caught

section Shape

variable {version : WrittenVersion} {behind : List Char}

/-- The third number is caught if there is one. -/
theorem patchShape_leads (ends : version.Ends behind) (read : List Char) (caught : List (Nat × List Char)) :
    patchShape.leads some ⟨read, (patchText version.patch).getD [] ++ behind, caught⟩ =
      some ⟨read ++ (patchText version.patch).getD [], behind, version.catches caught⟩ := by
  rw [patchShape, Pattern.leads_optional, Pattern.leads_group, Pattern.leads_seq]
  -- With a third number the group is tried first and succeeds; without one it fails, and nothing is read.
  cases third : version.patch with
  | none =>
    simp only [WrittenVersion.catches, third, patchText, Option.map_none, Option.getD_none, List.nil_append,
      List.append_nil, Option.toList_none]
    cases behind with
    | nil => rw [Pattern.leads_char_nil, Option.none_or]
    | cons c rest =>
      rw [Pattern.leads_char_cons]
      split
      · rename_i dot
        -- No digit follows the dot.
        have stops : rest.head?.any isDecimalDigit = false := by
          cases rest with
          | nil => rfl
          | cons d rest => exact ends.whole third d rest (by rw [dot])
        rw [Pattern.leads_plus_none .digit stops, Option.none_or]
      · rw [Option.none_or]
  | some digits =>
    obtain ⟨nonempty, all⟩ := version.isPatch digits third
    simp only [patchText, Option.map_some, Option.getD_some, List.cons_append]
    rw [Pattern.leads_char_cons, if_pos rfl, Pattern.leads_plus .digit nonempty all ends.stops rfl]
    simp [Reading.catching, WrittenVersion.catches, third, patchText]

/-- The second number is read to its end, since the third can be read there. -/
theorem minorShape_leads (ends : version.Ends behind) (read : List Char) (caught : List (Nat × List Char)) :
    minorShape.leads some ⟨read, version.minor ++ ((patchText version.patch).getD [] ++ behind), caught⟩ =
      some ⟨read ++ version.minor ++ (patchText version.patch).getD [], behind, version.catches caught⟩ := by
  -- A run that is read as far as it goes needs no second try if what is behind it can be read.
  have third := patchShape_leads ends (read ++ version.minor) caught
  rw [minorShape, Pattern.leads_seq, Pattern.leads_plus .digit version.isMinor.1 version.isMinor.2 ends.patch_stops
    (by rw [third]; rfl), third]

/-- The first number is read to its end, since a dot and the second can be read there. -/
theorem majorShape_leads (ends : version.Ends behind) (read : List Char) (caught : List (Nat × List Char)) :
    majorShape.leads some ⟨read, version.numbers behind, caught⟩ =
      some ⟨read ++ version.major ++ ['.'] ++ version.minor ++ (patchText version.patch).getD [], behind,
        version.catches caught⟩ := by
  -- What the pattern reads behind the first number is known, so the number need not give anything back.
  have second := minorShape_leads ends (read ++ version.major ++ ['.']) caught
  have stops : ∀ rest, ('.' :: rest).head?.any CharKind.digit.holds = false := fun _ => isDecimalDigit_dot
  rw [majorShape, Pattern.leads_seq, WrittenVersion.numbers, Pattern.leads_plus .digit version.isMajor.1
    version.isMajor.2 (stops _) (by rw [Pattern.leads_seq, Pattern.leads_char_cons, if_pos rfl, second]; rfl),
    Pattern.leads_seq, Pattern.leads_char_cons, if_pos rfl, second]

/-- The blanks are read to their end, since the numbers can be read there. -/
theorem numbersShape_leads (ends : version.Ends behind) (read : List Char) (caught : List (Nat × List Char)) :
    numbersShape.leads some ⟨read, version.blanks ++ version.numbers behind, caught⟩ =
      some ⟨read ++ version.blanks ++ version.major ++ ['.'] ++ version.minor ++ (patchText version.patch).getD [],
        behind, version.catches caught⟩ := by
  -- A run that is read as far as it goes needs no second try if what is behind it can be read.
  have numbers := majorShape_leads ends (read ++ version.blanks) caught
  rw [numbersShape, Pattern.leads_seq, Pattern.leads_star .blank version.silent (version.numbers_stops behind)
    (by rw [numbers]; rfl), numbers]

variable {α : Type} {goal : Reading → Option α} {sign rest : List Char} {c : Char}

/-- A comparator is read as a whole if the goal is met behind it. -/
theorem comparatorShape_leads (known : sign ∈ comparators) (same : c ≠ '=')
    (met : (goal ⟨sign, c :: rest, []⟩).isSome = true) :
    comparatorShape.leads goal ⟨[], sign ++ c :: rest, []⟩ = goal ⟨sign, c :: rest, []⟩ := by
  -- The longer comparators are tried before the shorter ones, and fail where no equals sign follows.
  simp only [comparators, List.mem_cons, List.not_mem_nil, or_false] at known
  rcases known with rfl | rfl | rfl | rfl | rfl <;>
    simp [comparatorShape, Pattern.leads_choice, Pattern.leads_seq, Pattern.leads_char_cons, same,
      Option.or_of_isSome met]

/-- No comparator is read where none of their signs stands. -/
theorem comparatorShape_leads_none (more : c ≠ '>') (less : c ≠ '<') (same : c ≠ '=') :
    comparatorShape.leads goal ⟨[], c :: rest, []⟩ = none := by
  -- Each comparator starts with one of the three signs.
  simp [comparatorShape, Pattern.leads_choice, Pattern.leads_seq, Pattern.leads_char_cons, more, less, same]

/-- A version that ends is what a search settles on. -/
theorem versionShape_first (ends : version.Ends behind) :
    versionShape.first (version.text ++ behind) =
      some ⟨version.text, behind, version.catches (version.comparator.map (1, ·)).toList⟩ := by
  obtain ⟨c, rest, plain, more, less, same⟩ := version.head?_blanks behind
  have numbers := numbersShape_leads ends (version.comparator.getD []) (version.comparator.map (1, ·)).toList
  have whole : version.comparator.getD [] ++ version.blanks ++ version.major ++ ['.'] ++ version.minor ++
      (patchText version.patch).getD [] = version.text := by
    simp [WrittenVersion.text]
  rw [whole, plain] at numbers
  -- Where a comparator is written, the numbers can be read behind it, so the search never goes back.
  rw [Pattern.first_eq, versionShape, Pattern.leads_seq, Pattern.leads_start, Pattern.leads_seq,
    Pattern.leads_optional, Pattern.leads_group, version.text_append, plain]
  cases written : version.comparator with
  | none =>
    rw [written] at numbers
    rw [Option.getD_none, List.nil_append, comparatorShape_leads_none more less same, Option.none_or]
    exact numbers
  | some sign =>
    rw [written] at numbers
    have met : (numbersShape.leads some (Reading.catching 1 ⟨[], sign ++ c :: rest, []⟩ ⟨sign, c :: rest, []⟩)) =
        some ⟨version.text, behind, version.catches [(1, sign)]⟩ := numbers
    rw [Option.getD_some, comparatorShape_leads (version.known sign written) same (by rw [met]; rfl), met]
    rfl

/-- The version of what a search settles on is the one that is written. -/
theorem version_versionShape_first (ends : version.Ends behind) :
    (versionShape.first (version.text ++ behind)).map Reading.version = some version.found := by
  rw [versionShape_first ends]
  -- Each group has caught its part if there is one, and nothing otherwise.
  rw [WrittenVersion.found, WrittenVersion.catches]
  cases version.comparator <;> cases version.patch <;> rfl

end Shape

/-- The texts of the comparators' pattern are the comparators. -/
theorem comparatorShape_spells_iff {text : List Char} : comparatorShape.Spells text ↔ text ∈ comparators := by
  -- One case for each of the five comparators, in the order of the pattern.
  simp only [comparatorShape, Pattern.Spells, comparators, List.mem_cons, List.not_mem_nil, or_false]
  constructor
  · rintro (⟨_, _, rfl, rfl, rfl⟩ | rfl | ⟨_, _, rfl, rfl, rfl⟩ | rfl | rfl) <;> simp
  · rintro (rfl | rfl | rfl | rfl | rfl)
    · exact .inl ⟨_, _, rfl, rfl, rfl⟩
    · exact .inr (.inl rfl)
    · exact .inr (.inr (.inl ⟨_, _, rfl, rfl, rfl⟩))
    · exact .inr (.inr (.inr (.inl rfl)))
    · exact .inr (.inr (.inr (.inr rfl)))

/-- The texts of the third number's pattern are a dot with a number behind it, and nothing. -/
theorem patchShape_spells_iff {text : List Char} : patchShape.Spells text ↔
    ∃ patch : Option (List Char), (∀ digits ∈ patch, IsDigits digits) ∧ text = (patchText patch).getD [] := by
  -- The pattern is a choice, and its two sides are the two cases of a third number.
  constructor
  · rintro (⟨_, digits, rfl, number, rfl⟩ | rfl)
    · refine ⟨some digits, ?_, rfl⟩
      intro other same
      exact Option.some.inj same ▸ number
    · exact ⟨none, by simp, rfl⟩
  · rintro ⟨patch, numbers, rfl⟩
    cases patch with
    | none => exact .inr rfl
    | some digits => exact .inl ⟨['.'], digits, rfl, numbers digits rfl, rfl⟩

/-- The texts of the pattern are the versions. -/
theorem versionShape_spells_iff {text : List Char} :
    versionShape.Spells text ↔ ∃ version : WrittenVersion, version.text = text := by
  constructor
  · -- The parts of the pattern are those of a version, in their order.
    rintro ⟨_, _, rfl, ⟨signs, _, sign, numbers, rfl⟩, rfl⟩
    obtain ⟨blanks, _, silent, ⟨major, _, isMajor, ⟨_, _, rfl, second, rfl⟩, rfl⟩, rfl⟩ := numbers
    obtain ⟨minor, third, isMinor, spelled, rfl⟩ := second
    obtain ⟨patch, isPatch, rfl⟩ := patchShape_spells_iff.mp spelled
    obtain ⟨comparator, known, rfl⟩ := exists_comparator (sign.imp_left comparatorShape_spells_iff.mp)
    exact ⟨⟨comparator, blanks, major, minor, patch, known, silent, isMajor, isMinor, isPatch⟩, by
      simp [WrittenVersion.text]⟩
  · rintro ⟨version, rfl⟩
    -- A search that is given the version alone reads it.
    have ends : version.Ends [] := ⟨rfl, fun _ _ _ cons => absurd cons (List.cons_ne_nil _ _).symm⟩
    have found := versionShape_first ends
    rw [List.append_nil] at found
    exact (Pattern.spells_of_first found).1

/-- A search with the pattern reads versions. -/
theorem readsVersions_versionShape : ReadsVersions fun text => (versionShape.first text).map Reading.version where
  whole _ _ ends := version_versionShape_first ends
  only text found := by
    -- Whatever the pattern has read is spelled by it, and so is a version.
    obtain ⟨reading, held⟩ := Option.isSome_iff_exists.mp ((Option.isSome_map ..).symm.trans found)
    obtain ⟨spelled, split⟩ := Pattern.spells_of_first held
    obtain ⟨version, same⟩ := versionShape_spells_iff.mp spelled
    exact ⟨version, reading.rest, by rw [same, ← split]⟩

/-- The rule for versions reports a text exactly if it does not begin with a version, with one warning. -/
theorem checkVersion_of_text {document : Entries} {written : String}
    (given : valueUnder document "version" = .text written) (lines : List Line) :
    (checkVersion document lines = .ok [] ↔ ∃ version : WrittenVersion, version.text <+: written.toList) ∧
      ((¬ ∃ version : WrittenVersion, version.text <+: written.toList) → ∃ range, checkVersion document lines =
        .ok [warningAt range
          "Invalid version format. Expected semver with optional operator (e.g., \">=0.30.0\")"]) := by
  rw [← readsVersions_matchVersion.isSome_iff]
  -- A text is shown as it is, and the rule asks no more than whether something is read.
  unfold checkVersion
  rw [given]
  simp only [Value.shown, Bind.bind, Except.bind, Pure.pure, Except.pure]
  cases (matchVersion written.toList).isSome with
  | true => exact ⟨by simp, fun silent => absurd rfl silent⟩
  | false => exact ⟨by simp, fun _ => ⟨_, rfl⟩⟩

/-- The published pattern is one whose texts are the versions, and the matcher reads what a search with it settles
on: the longest version that a text begins with, if there is any. So the rule for versions reports a text, with one
warning, exactly if it begins with no version. -/
theorem versions_read_greedily :
    versionShape.source = versionPattern.toList ∧
    (∀ text, versionShape.Spells text ↔ ∃ version : WrittenVersion, version.text = text) ∧
    (∀ text, matchVersion text = (versionShape.first text).map Reading.version) ∧
    (∀ text, (matchVersion text).isSome = true ↔ ∃ version : WrittenVersion, version.text <+: text) ∧
    (∀ text found, matchVersion text = some found ↔
      ∃ version : WrittenVersion, version.IsLongestIn text ∧ version.found = found) ∧
    ∀ document lines written, valueUnder document "version" = .text written →
      (checkVersion document lines = .ok [] ↔ ∃ version : WrittenVersion, version.text <+: written.toList) ∧
      ((¬ ∃ version : WrittenVersion, version.text <+: written.toList) → ∃ range, checkVersion document lines =
        .ok [warningAt range
          "Invalid version format. Expected semver with optional operator (e.g., \">=0.30.0\")"]) := by
  refine ⟨by decide +kernel, fun _ => versionShape_spells_iff, ?_, readsVersions_matchVersion.isSome_iff,
    readsVersions_matchVersion.eq_some_iff, fun _ lines _ given => checkVersion_of_text given lines⟩
  -- The matcher and the search both read the longest version, and there is only one.
  intro text
  exact readsVersions_matchVersion.unique readsVersions_versionShape text

/-- A comparator, a blank that is no space, and two numbers, the second in digits of two scripts. -/
def spacedVersion : WrittenVersion where
  comparator := some ['>', '=']
  blanks := ['\u00a0']
  major := ['1']
  minor := ['2', '\u0663']
  patch := none
  known _ same := Option.some.inj same ▸ List.mem_cons_self ..
  silent := List.forall_mem_singleton.mpr (by decide)
  isMajor := ⟨List.cons_ne_nil _ _, List.forall_mem_singleton.mpr (by decide)⟩
  isMinor := ⟨List.cons_ne_nil _ _, List.forall_mem_cons.mpr ⟨by decide, List.forall_mem_singleton.mpr (by decide)⟩⟩
  isPatch _ absent := absurd absent (Option.not_mem_none _)

/-- What follows a dot without a digit is not read, and a dot without a digit behind it is no version. -/
theorem spacedVersion_read :
    checkVersion [(.text "version", .text ">=\u00a01.2\u0663.x")] [] = .ok [] ∧
      ∃ range, checkVersion [(.text "version", .text "1.")] [] = .ok [warningAt range
        "Invalid version format. Expected semver with optional operator (e.g., \">=0.30.0\")"] := by
  obtain ⟨-, -, -, reads, -, reports⟩ := versions_read_greedily
  -- The text begins with the version that is written; the other one is read by the matcher, which finds none.
  refine ⟨(reports _ [] ">=\u00a01.2\u0663.x" rfl).1.mpr ⟨spacedVersion, by decide⟩, ?_⟩
  refine (reports _ [] "1." rfl).2 ?_
  rw [← reads]
  decide

end PlanLint
