import PlanLint.Proofs.Rule.NumberVersion
import PlanLint.Proofs.Validation.EntryLine
import PlanLint.Proofs.Yaml.PointedNumber

/-! Which versions of two numbers are warned of, with quotes around them and without. -/

namespace PlanLint

/-- The document with a project and a version. -/
def versionDocument (version : Value) : Entries := [(.text "project", .text "p"), (.text "version", version)]

/-- The finding about a version that is none. -/
def versionWarning (range : TextRange) : Diagnostic :=
  warningAt range "Invalid version format. Expected semver with optional operator (e.g., \">=0.30.0\")"

section Rules

variable {version : Value} {shown : String}

/-- Only the rule for versions can report such a document. -/
theorem validateDocument_versionDocument (version : Value) (lines : List Line) :
    validateDocument (versionDocument version) lines = checkVersion (versionDocument version) lines := by
  -- No other rule finds anything, each by computation from the two keys.
  have project : checkProject (versionDocument version) lines = .ok [] := rfl
  have repositories : checkRepositories (versionDocument version) lines = .ok [] := rfl
  have releases : checkReleases (versionDocument version) lines = .ok [] := rfl
  have registries : checkRegistries (versionDocument version) lines = .ok [] := rfl
  have monitors : checkMonitors (versionDocument version) lines = .ok [] := rfl
  have lifecycle : checkLifecycle (versionDocument version) lines = .ok [] := rfl
  have unknown : checkUnknownKeys (versionDocument version) lines = .ok [] := rfl
  simp only [validateDocument, checks, gather, project, repositories, releases, registries, monitors, lifecycle,
    unknown]
  cases checkVersion (versionDocument version) lines with
  | error cause => rfl
  | ok found => simp [Bind.bind, Except.bind, Pure.pure, Except.pure]

/-- It does where the version as it is shown does not begin with one. -/
theorem checkVersion_versionDocument (some_version : version ≠ .null) (isShown : version.shown = .ok shown)
    (lines : List Line) :
    (BeginsVersion shown.toList → checkVersion (versionDocument version) lines = .ok []) ∧
      (¬ BeginsVersion shown.toList →
        ∃ range, checkVersion (versionDocument version) lines = .ok [versionWarning range]) := by
  -- There is a version, so what is checked is how it is shown.
  rw [BeginsVersion, ← readsVersions_matchVersion.isSome_iff]
  have given : valueUnder (versionDocument version) "version" = version := rfl
  unfold checkVersion
  rw [given]
  split
  · exact absurd rfl some_version
  · rw [isShown]
    simp only [Bind.bind, Except.bind, Pure.pure, Except.pure]
    cases (matchVersion shown.toList).isSome with
    | true => exact ⟨fun _ => rfl, fun fails => absurd rfl fails⟩
    | false => exact ⟨fun begins => absurd begins (by simp), fun _ => ⟨_, rfl⟩⟩

end Rules

section Text

/-- The line of the project. -/
def projectEntry : EntryLine where
  key := ['p', 'r', 'o', 'j', 'e', 'c', 't']
  style := .plain
  value := ['p']
  letters := List.all_iff_forall_prop.mp rfl
  named := by simp
  short := by simp
  isWord := ⟨by simp, List.all_iff_forall_prop.mp rfl⟩

/-- The line of a version of two numbers. -/
def versionEntry (style : WordStyle) (number : PointedNumber) : EntryLine where
  key := ['v', 'e', 'r', 's', 'i', 'o', 'n']
  style := style
  value := number.text
  letters := List.all_iff_forall_prop.mp rfl
  named := by simp
  short := by simp
  isWord :=
    ⟨by simp [PointedNumber.text],
      number.of_mem_text (P := fun c => isSimpleCharacter c = true) (by decide) (by decide)⟩

/-- A plan with a project and a version of two numbers. -/
def versionText (style : WordStyle) (number : PointedNumber) : List Char :=
  "project: p\nversion: ".toList ++ style.spell number.text ++ ['\n']

/-- What the version is read as. -/
def versionValue (number : PointedNumber) : WordStyle → Value
  | .plain => .float number.double
  | .quoted _ => .text (String.ofList number.text)

/-- How it is shown. -/
def shownVersion (number : PointedNumber) : WordStyle → String
  | .plain => plainNotation.text number.double
  | .quoted _ => String.ofList number.text

variable (style : WordStyle) (number : PointedNumber)

/-- The text has the two entries. -/
theorem versionText_eq : versionText style number = entryText true [projectEntry, versionEntry style number] := by
  -- Both are put together from the same pieces.
  unfold versionText
  simp [entryText, textBehind, EntryLine.line, projectEntry, versionEntry, WordStyle.spell]

/-- The version is a number without quotes around it, and a text with them. -/
theorem readsAs_versionEntry : (versionEntry style number).ReadsAs (versionValue number style) where
  key := by
    -- The key does not look like anything but a text.
    have text : Tag.ofPlain false ['v', 'e', 'r', 's', 'i', 'o', 'n'] = .core .str := by decide
    exact text
  value := by
    -- Quotes make any scalar a text, without them the number is read.
    intro start
    cases style with
    | plain =>
      have tag : Parser.scalarTag .plain number.text = .core .float := number.ofPlain_text
      simp only [versionEntry, WordStyle.scalar, tag, scalarValue, number.readFloat_text]
      rfl
    | quoted double => cases double <;> rfl

/-- It is shown as text. -/
theorem shown_versionValue : (versionValue number style).shown = .ok (shownVersion number style) := by
  -- A number is shown by its digits, and a text as itself.
  cases style <;> rfl

/-- The text is parsed to the document with that version. -/
theorem parseDocument_versionText (lines : List Line) (allows : Bool) :
    parseDocument (versionText style number) lines allows =
      .ok ⟨some (versionDocument (versionValue number style)), []⟩ := by
  -- The keys differ, so that what each line is read as is a function of its key.
  let value : EntryLine → Value := fun e => if e.key = projectEntry.key then .text "p" else versionValue number style
  have readsAll : ∀ e ∈ [projectEntry, versionEntry style number], e.ReadsAs (value e) := by
    intro e member
    simp only [List.mem_cons, List.not_mem_nil, or_false] at member
    rcases member with rfl | rfl
    · exact ⟨by decide, fun start => rfl⟩
    · exact readsAs_versionEntry style number
  have may : MayFollow allows [] [projectEntry, versionEntry style number] := by
    refine .inr ⟨?_, fun _ _ => rfl⟩
    simp [projectEntry, versionEntry]
  rw [versionText_eq]
  exact parseDocument_entryText true (by simp) readsAll may lines

/-- What a validation finds depends on whether the version as it is shown begins with one. -/
theorem validate_versionText (allows : Bool) :
    ∃ result, validate (versionText style number) allows = .ok result ∧
      (BeginsVersion (shownVersion number style).toList → result.diagnostics = []) ∧
      (¬ BeginsVersion (shownVersion number style).toList →
        ∃ range, result.diagnostics = [versionWarning range]) := by
  have some_version : versionValue number style ≠ .null := by cases style <;> simp [versionValue]
  -- The document holds itself nowhere, so that unrolling it changes nothing.
  have unrolled_eq : ∀ levels,
      unrolled (versionDocument (versionValue number style)) levels =
        versionDocument (versionValue number style) := by
    intro levels
    cases levels with
    | zero => rfl
    | succ levels => cases style <;> rfl
  obtain ⟨silent, warned⟩ := checkVersion_versionDocument some_version (shown_versionValue style number)
    (splitLines (versionText style number))
  unfold validate
  simp only [parseDocument_versionText, unrolled_eq, validateDocument_versionDocument]
  by_cases begins : BeginsVersion (shownVersion number style).toList
  · rw [silent begins]
    exact ⟨_, rfl, fun _ => rfl, fun fails => absurd begins fails⟩
  · obtain ⟨range, found⟩ := warned begins
    rw [found]
    exact ⟨_, rfl, fun begins' => absurd begins' begins, fun _ => ⟨range, rfl⟩⟩

/-- A quoted version begins with one, and so does a plain one unless it takes a bare exponent. -/
theorem beginsVersion_shownVersion :
    BeginsVersion (shownVersion number style).toList ↔ (style = .plain → ¬ TakesBareExponent number.double) := by
  cases style with
  | plain =>
    have known : number.double.toBits.toNat ≤ infiniteNumber := toBits_nearestDecimal_le _ _
    rw [shownVersion, beginsVersion_iff_not_takes known]
    simp
  | quoted double =>
    -- In quotes it is shown as it is written, with digits on both sides of the point.
    refine iff_of_true ?_ (by simp)
    have part : ∀ digits : List Char, digits ≠ [] → (∀ c ∈ digits, isAsciiDigit c = true) → IsDigits digits :=
      fun _ some_digit digits => ⟨some_digit, fun c inside => isDecimalDigit_of_isAsciiDigit (digits c inside)⟩
    have whole := part _ number.some_whole fun c inside => number.digits c (List.mem_append_left _ inside)
    have fraction := part _ number.some_fraction fun c inside => number.digits c (List.mem_append_right _ inside)
    simpa [shownVersion, PointedNumber.text] using beginsVersion_of_digits whole fraction []

end Text

/-- A version of two numbers is never warned of in quotes. Without them it is read as a floating-point number, and
warned of exactly if that is also what a decimal of one digit is read as whose exponent is written out; this is so
for no number from a ten-thousandth to nine quadrillion. -/
theorem versions_validated (number : PointedNumber) (allows : Bool) :
    (∀ double, ∃ result,
      validate (versionText (.quoted double) number) allows = .ok result ∧ result.diagnostics = []) ∧
      ∃ result, validate (versionText .plain number) allows = .ok result ∧
        (TakesBareExponent number.double ∧ (∃ range, result.diagnostics = [versionWarning range]) ∨
          ¬ TakesBareExponent number.double ∧ result.diagnostics = []) ∧
        ((1 / 10000 : ℚ) ≤ number.mantissa * 10 ^ (-(number.fraction.length : ℤ)) →
          (number.mantissa * 10 ^ (-(number.fraction.length : ℤ)) : ℚ) ≤ 9 * 10 ^ 15 → result.diagnostics = []) := by
  constructor
  · -- The quoted version is settled by its digits, the plain one by the number it is read as.
    intro double
    obtain ⟨result, validated, silent, -⟩ := validate_versionText (.quoted double) number allows
    exact ⟨result, validated, silent ((beginsVersion_shownVersion _ number).mpr (by simp))⟩
  · obtain ⟨result, validated, silent, warned⟩ := validate_versionText .plain number allows
    simp only [beginsVersion_shownVersion, forall_const, not_not] at silent warned
    refine ⟨result, validated, ?_, fun low high => silent (not_takesBareExponent low high)⟩
    by_cases takes : TakesBareExponent number.double
    · exact .inl ⟨takes, warned takes⟩
    · exact .inr ⟨takes, silent takes⟩

/-- Thirty hundredths. -/
def thirtyHundredths : PointedNumber where
  whole := ['0']
  fraction := ['3', '0']
  some_whole := by simp
  some_fraction := by simp
  digits := List.all_iff_forall_prop.mp rfl

/-- They lie between these, and are not warned of. -/
theorem thirtyHundredths_validated :
    (1 / 10000 : ℚ) ≤ (30 : ℕ) * 10 ^ (-2 : ℤ) ∧ ((30 : ℕ) * 10 ^ (-2 : ℤ) : ℚ) ≤ 9 * 10 ^ 15 ∧
      ∃ result, validate "project: p\nversion: 0.30\n".toList false = .ok result ∧ result.diagnostics = [] := by
  have low : (1 / 10000 : ℚ) ≤ (30 : ℕ) * 10 ^ (-2 : ℤ) := by norm_num
  have high : ((30 : ℕ) * 10 ^ (-2 : ℤ) : ℚ) ≤ 9 * 10 ^ 15 := by norm_num
  -- The text is the one that the general statement is about.
  have written : versionText .plain thirtyHundredths = "project: p\nversion: 0.30\n".toList := by
    unfold versionText
    simp [WordStyle.spell, thirtyHundredths, PointedNumber.text]
  obtain ⟨-, result, validated, -, silent⟩ := versions_validated thirtyHundredths false
  rw [written] at validated
  exact ⟨low, high, result, validated, silent low high⟩

/-- A hundred-thousandth is warned of. -/
theorem hundredThousandth_warned :
    ¬ ∃ result, validate "project: p\nversion: 0.00001\n".toList false = .ok result ∧ result.diagnostics = [] := by
  -- The whole validation is computed once.
  have ended : (match validate "project: p\nversion: 0.00001\n".toList false with
      | .ok result => result.diagnostics.isEmpty
      | .error _ => true) = false := by
    decide +kernel
  rintro ⟨result, validated, none⟩
  rw [validated] at ended
  simp [none] at ended

end PlanLint
