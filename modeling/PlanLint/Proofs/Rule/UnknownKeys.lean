import Mathlib.Data.Bool.AllAny
import PlanLint.Document.SameKey
import PlanLint.Proofs.Rule.Findings
import PlanLint.Proofs.Rule.Shown
import PlanLint.Validation
import Mathlib.Data.List.Forall2

/-! The keys that the scan of the top level warns of, and those that it takes for recognised names. -/

namespace PlanLint

/-- A key that one of the recognised names finds: it is the same key as that name. -/
def Value.isRecognised (key : Value) : Bool := topLevelKeys.any fun name => key.sameKey (.text name)

/-- A tagged scalar with the text of a recognised name: it is shown like that name, but is another key. -/
def Value.isDisguised : Value → Bool
  | .tagged _ _ s => topLevelKeys.contains s
  | _ => false

/-- The warning about an entry: it shows the key of the entry and points at the first place of that text among
the keys of the top level, or at the start of the document. -/
structure WarnsOf (lines : List Line) (entry : Value × Value) (finding : Diagnostic) : Prop where
  severity : finding.severity = .warning
  source : finding.source = diagnosticSource
  told : ∃ name, entry.1.shown = .ok name ∧
    finding.message = "Unknown top-level key: '" ++ name ++ "'. Valid keys are: " ++ choicesText topLevelKeys ∧
    finding.range = ((locateKey lines name.toList).map (·.keyRange)).getD (documentStartRange lines)

/-! Only a text or a tagged scalar is shown as a name: anything else starts with a digit, a sign, a bracket or
another letter. -/

/-- The letters that the recognised names start with. -/
def nameInitials : List Char := ['p', 'v', 'r', 'm', 'l']

/-- A text that starts with another character than a recognised name does. -/
def StartsApart (shown : String) : Prop := ∃ c ∈ shown.toList.head?, c ∉ nameInitials

/-- Such a text is no recognised name. -/
theorem StartsApart.not_mem {shown : String} (apart : StartsApart shown) : shown ∉ topLevelKeys := by
  -- Each recognised name starts with one of the initials.
  have all : ∀ name ∈ topLevelKeys, ∀ c ∈ name.toList.head?, c ∈ nameInitials := by
    simp [topLevelKeys, nameInitials]
  obtain ⟨c, first, other⟩ := apart
  exact fun listed => other (all shown listed c first)

/-- A digit starts no name. -/
theorem not_initial_of_isDigit {c : Char} (digit : c.isDigit = true) : c ∉ nameInitials := by
  -- The names start with letters.
  have none : ∀ c ∈ nameInitials, c.isDigit = false := List.all_iff_forall_prop.mp rfl
  intro initial
  rw [none c initial] at digit
  exact absurd digit (by simp)

/-- A text starts apart if it does so behind any digits that it has in front. -/
theorem StartsApart.of_digits {shown : String} (run : List Char) (c : Char) (rest : List Char)
    (split : shown.toList = run ++ c :: rest) (digits : ∀ d ∈ run, d.isDigit = true) (other : c ∉ nameInitials) :
    StartsApart shown := by
  -- The first character is a digit, or the one that the digits would stand in front of.
  cases run with
  | nil => exact ⟨c, by simp [split], other⟩
  | cons d run => exact ⟨d, by simp [split], not_initial_of_isDigit (digits d (by simp))⟩

/-- How a text goes on does not matter. -/
theorem StartsApart.append {front : String} (apart : StartsApart front) (rest : String) :
    StartsApart (front ++ rest) := by
  -- Only the first character counts, and it stays the first.
  obtain ⟨c, first, other⟩ := apart
  refine ⟨c, ?_, other⟩
  rw [Option.mem_def] at first ⊢
  rw [String.toList_append, List.head?_append, first, Option.some_or]

/-- The digits of a number are digits. -/
theorem isDigit_of_mem_toDigits {n : Nat} {c : Char} (member : c ∈ Nat.toDigits 10 n) : c.isDigit = true :=
  Nat.isDigit_of_mem_toDigits (by decide) (by decide) member

/-- A number starts with a digit, also where zeros fill it up. -/
theorem startsApart_paddedText (width n : Nat) : StartsApart (paddedText width n) := by
  -- The digits are not empty, and what fills them up are digits too.
  obtain ⟨c, rest, digits⟩ := List.exists_cons_of_ne_nil (Nat.toDigits_ne_nil (n := n) (b := 10))
  refine .of_digits (List.replicate (width - (Nat.toDigits 10 n).length) '0') c rest
    (by simp [paddedText, digits]) ?_ (not_initial_of_isDigit (isDigit_of_mem_toDigits (n := n) (by simp [digits])))
  intro zero member
  rw [List.eq_of_mem_replicate member]
  decide

/-- A signed number starts with a digit or a minus. -/
theorem startsApart_signedText (n : Int) : StartsApart (signedText n) := by
  -- A minus is no initial either.
  cases n with
  | ofNat n =>
    have unpadded : signedText (.ofNat n) = paddedText 0 n := by simp [signedText, decimalText, paddedText]
    rw [unpadded]
    exact startsApart_paddedText 0 n
  | negSucc n => exact .append (.of_digits [] '-' [] (by simp) (by simp) (by decide)) _

/-- A date starts with its year. -/
theorem startsApart_date (d : Date) : StartsApart d.text := by
  -- The year is padded to four digits.
  simp only [Date.text, String.append_assoc]
  exact (startsApart_paddedText 4 d.year).append _

/-- So does a timestamp. -/
theorem startsApart_timestamp (t : Timestamp) : StartsApart t.text := by
  -- The date stands in front of the time.
  simp only [Timestamp.text, String.append_assoc]
  exact (startsApart_date t.date).append _

section Number

variable {digits : List Char}

/-- A number that is written out in full starts with a digit or with its point. -/
theorem startsApart_positionalText (all : ∀ d ∈ digits, d.isDigit = true) (power : Int) :
    StartsApart (positionalText digits power) := by
  unfold positionalText
  split
  · -- The zeros behind the digits are digits as well, and the point comes behind both.
    refine .of_digits (digits ++ List.replicate power.toNat '0') '.' ['0'] (by simp) ?_ (by decide)
    intro d member
    rcases List.mem_append.mp member with digit | zero
    · exact all d digit
    · rw [List.eq_of_mem_replicate zero]
      decide
  · dsimp only
    split
    · refine .of_digits (digits.take (digits.length - (-power).toNat)) '.'
        (digits.drop (digits.length - (-power).toNat)) (by simp) ?_ (by decide)
      exact fun d member => all d (List.mem_of_mem_take member)
    · exact .append (.of_digits ['0'] '.' [] (by simp) (by simp) (by decide)) _

/-- A number with an exponent starts with a digit, or with the letter of the exponent if it has none. -/
theorem startsApart_scientificText (all : ∀ d ∈ digits, d.isDigit = true) (n : FloatNotation) (exponent : Int) :
    StartsApart (scientificText n digits exponent) := by
  have exponentLetter : ∀ rest, StartsApart ("e" ++ rest) :=
    fun rest => .append (.of_digits [] 'e' [] (by simp) (by simp) (by decide)) _
  unfold scientificText
  dsimp only
  -- Without digits the text starts with the letter, which begins no name.
  cases digits with
  | nil => simpa [String.append_assoc] using exponentLetter _
  | cons d rest =>
    simp only [String.append_assoc]
    refine .append ?_ _
    exact ⟨d, by simp, not_initial_of_isDigit (all d (by simp))⟩

/-- Zeros at the end are dropped from digits. -/
theorem isDigit_of_mem_withoutTrailingZeros (all : ∀ d ∈ digits, d.isDigit = true) (power : Int) :
    ∀ d ∈ (withoutTrailingZeros digits power).1, d.isDigit = true := by
  -- What is kept was there before.
  intro d member
  have kept := (List.dropWhile_sublist (p := (· == '0')) (l := digits.reverse)).reverse.subset member
  rw [List.reverse_reverse] at kept
  exact all d kept

/-- A floating-point number starts with a digit or a minus, or it is infinite or undefined. -/
theorem startsApart_floatText (x : Float) : StartsApart (plainNotation.text x) := by
  -- The minus in front of a negative number is apart itself.
  have signed : ∀ (negative : Prop) [Decidable negative] {rest : String}, StartsApart rest →
      StartsApart ((if negative then "-" else "") ++ rest) := by
    intro negative _ rest apart
    split
    · exact .append ⟨'-', by simp, by decide⟩ rest
    · simpa using apart
  unfold FloatNotation.text
  dsimp only
  split
  · exact ⟨'n', by simp [plainNotation], by decide⟩
  · split
    · exact signed _ ⟨'i', by simp [plainNotation], by decide⟩
    · split
      · exact signed _ ⟨'0', by simp, by decide⟩
      · have digits : ∀ d ∈ (withoutTrailingZeros (Nat.toDigits 10 (Binary.ofBits x.toBits).shortest.1)
            (Binary.ofBits x.toBits).shortest.2).1, d.isDigit = true :=
          isDigit_of_mem_withoutTrailingZeros (fun _ => isDigit_of_mem_toDigits) _
        split
        · exact signed _ (startsApart_positionalText digits _)
        · exact signed _ (startsApart_scientificText digits _ _)

end Number

/-- Whether a value is shown as the characters that were written for it. -/
def Value.isWritten : Value → Bool
  | .text _ => true
  | .tagged _ _ _ => true
  | _ => false

/-- What is made of another result is made of some. -/
theorem exists_of_bind_eq_ok {α β : Type} {first : Except Unprintable α} {next : α → Except Unprintable β} {b : β}
    (made : first >>= next = .ok b) : ∃ a, next a = .ok b := by
  -- A first step that breaks off leaves nothing to make anything of.
  cases first with
  | error cause => simp [Bind.bind, Except.bind] at made
  | ok a => exact ⟨a, made⟩

/-- A text that is made of the parts of a collection starts with what is put in front of them. -/
theorem StartsApart.of_parts {α : Type} {parts : Except Unprintable α} {make : α → String} {name : String} (c : Char)
    (made : (do return make (← parts)) = .ok name) (begins : ∀ a, c ∈ (make a).toList.head?)
    (other : c ∉ nameInitials) : StartsApart name := by
  -- Whatever the parts are, the text is made by putting something in front of them.
  obtain ⟨a, isMade⟩ := exists_of_bind_eq_ok made
  obtain rfl := Except.ok.inj isMade
  exact ⟨c, begins a, other⟩

/-- Any other value starts apart. -/
theorem startsApart_shown {value : Value} {name : String} (unwritten : value.isWritten = false)
    (shown : value.shown = .ok name) : StartsApart name := by
  cases value with
  -- The two that are shown as they are written.
  | text s => simp [Value.isWritten] at unwritten
  | tagged tag style s => simp [Value.isWritten] at unwritten
  -- Words, which start with a capital letter.
  | null =>
    obtain rfl := Except.ok.inj shown
    exact ⟨'N', by simp, by decide⟩
  | bool b =>
    obtain rfl := Except.ok.inj shown
    cases b with
    | true => exact ⟨'T', by simp, by decide⟩
    | false => exact ⟨'F', by simp, by decide⟩
  -- What starts with a digit, or with a sign in front of one.
  | anchoredBool b =>
    obtain rfl := Except.ok.inj shown
    cases b with
    | true => exact ⟨'1', by simp, by decide⟩
    | false => exact ⟨'0', by simp, by decide⟩
  | int n =>
    simp only [Value.shown, Value.quotedIn, intText] at shown
    split at shown
    · obtain rfl := Except.ok.inj shown
      exact startsApart_signedText n
    · simp at shown
  | float x =>
    obtain rfl := Except.ok.inj shown
    exact startsApart_floatText x
  | date d =>
    obtain rfl := Except.ok.inj shown
    exact startsApart_date d
  | timestamp t =>
    obtain rfl := Except.ok.inj shown
    exact startsApart_timestamp t
  -- Bytes and collections, with a letter or a bracket in front.
  | bytes b =>
    obtain rfl := Except.ok.inj shown
    exact ⟨'b', by simp [quotedBytes], by decide⟩
  | list items =>
    simp only [Value.shown, Value.quotedIn, Bool.false_and, Bool.false_eq_true, if_false] at shown
    exact .of_parts '[' shown (by simp) (by decide)
  | tuple items =>
    simp only [Value.shown, Value.quotedIn] at shown
    exact .of_parts '(' shown (by simp) (by decide)
  | mapping entries =>
    simp only [Value.shown, Value.quotedIn] at shown
    exact .of_parts '\x7b' shown (by simp) (by decide)
  | keyMapping entries =>
    simp only [Value.shown, Value.quotedIn] at shown
    -- An empty one is written otherwise, but with the same word in front.
    obtain ⟨parts, shown⟩ := exists_of_bind_eq_ok shown
    split at shown
    · obtain rfl := Except.ok.inj shown
      exact ⟨'o', by simp, by decide⟩
    · obtain rfl := Except.ok.inj shown
      exact ⟨'o', by simp, by decide⟩
  | set items =>
    simp only [Value.shown, Value.quotedIn] at shown
    exact .of_parts 's' shown (by simp) (by decide)
  | enclosing => simp [Value.shown, Value.quotedIn] at shown

/-! What the scan makes of one key, and then of all. -/

variable {key : Value} {lines : List Line} {document : Entries}

/-- The only key that is the same as a text is that text. -/
theorem sameKey_text_iff {name : String} : key.sameKey (.text name) = true ↔ key = .text name := by
  -- Of the kinds of keys only texts are compared with texts.
  cases key <;> simp [Value.sameKey, Value.asInt?]

/-- A key is shown as a recognised name exactly if one of the names finds it or it is a tagged scalar with such a
text. -/
theorem mem_topLevelKeys_iff {name : String} (shown : key.shown = .ok name) :
    name ∈ topLevelKeys ↔ (key.isRecognised || key.isDisguised) = true := by
  have recognised_iff : key.isRecognised = true ↔ ∃ known ∈ topLevelKeys, key = .text known := by
    simp only [Value.isRecognised, List.any_eq_true, sameKey_text_iff]
  cases written : key.isWritten with
  | false =>
    -- Nothing but the characters of a scalar can be those of a name.
    have unnamed : name ∉ topLevelKeys := (startsApart_shown written shown).not_mem
    cases key <;> simp_all [Value.isWritten, Value.isDisguised]
  | true =>
    cases key with
    | text s =>
      obtain rfl := Except.ok.inj shown
      simp [recognised_iff, Value.isDisguised]
    | tagged tag style s =>
      obtain rfl := Except.ok.inj shown
      simp [recognised_iff, Value.isDisguised]
    | _ => simp [Value.isWritten] at written

/-- A key that cannot be shown breaks the scan off. -/
theorem unknownKeyFindings_of_error {cause : Unprintable} (shown : key.shown = .error cause) :
    unknownKeyFindings lines key = .error cause := by
  -- The key is shown before anything else is asked.
  simp [unknownKeyFindings, shown, Bind.bind, Except.bind]

/-- A key that is shown as a recognised name gets no warning. -/
theorem unknownKeyFindings_of_mem {name : String} (shown : key.shown = .ok name) (known : name ∈ topLevelKeys) :
    unknownKeyFindings lines key = .ok [] := by
  -- The rule asks for the text of the key, whatever key it is the text of.
  simp [unknownKeyFindings, shown, known, Bind.bind, Except.bind, Pure.pure, Except.pure]

/-- Any other key gets one. -/
theorem unknownKeyFindings_of_not_mem {name : String} (shown : key.shown = .ok name) (unknown : name ∉ topLevelKeys)
    (lines : List Line) (value : Value) :
    ∃ finding, unknownKeyFindings lines key = .ok [finding] ∧ WarnsOf lines (key, value) finding := by
  -- The warning is there in any case; where it points depends on whether a line gives the key.
  refine ⟨_, by simp [unknownKeyFindings, shown, unknown, Bind.bind, Except.bind, Pure.pure, Except.pure]; rfl,
    rfl, rfl, name, shown, rfl, ?_⟩
  cases locateKey lines name.toList <;> simp [warningAt]

/-- The scan warns of the entries whose keys are not shown as a recognised name, in order. -/
theorem checkUnknownKeys_warns {found : List Diagnostic} (scanned : checkUnknownKeys document lines = .ok found) :
    List.Forall₂ (WarnsOf lines)
      (document.filter fun entry => !(entry.1.isRecognised || entry.1.isDisguised)) found := by
  obtain ⟨runs, each, rfl⟩ := gather_eq_ok_iff.mp scanned
  clear scanned
  -- Induction on the entries, with the findings of each.
  induction each with
  | nil => exact .nil
  | @cons entry run document runs own each ih =>
    rw [List.flatten_cons]
    cases shown : entry.1.shown with
    | error cause => simp [unknownKeyFindings_of_error shown] at own
    | ok name =>
      have known_iff := mem_topLevelKeys_iff shown
      by_cases known : name ∈ topLevelKeys
      · -- The entry is passed over on both sides.
        rw [unknownKeyFindings_of_mem shown known] at own
        rw [← Except.ok.inj own, List.filter_cons_of_neg (by simp [known_iff.mp known])]
        exact ih
      · obtain ⟨finding, one, warns⟩ := unknownKeyFindings_of_not_mem shown known lines entry.2
        rw [one] at own
        rw [← Except.ok.inj own, List.filter_cons_of_pos (by simpa using mt known_iff.mpr known)]
        exact .cons warns ih

/-- Warnings for all entries that no name finds are given exactly if none of them is disguised: one warning would
be missing for each. -/
theorem warns_unrecognised_iff {found : List Diagnostic}
    (warned : List.Forall₂ (WarnsOf lines)
      (document.filter fun entry => !(entry.1.isRecognised || entry.1.isDisguised)) found) :
    List.Forall₂ (WarnsOf lines) (document.filter fun entry => !entry.1.isRecognised) found ↔
      ∀ entry ∈ document, entry.1.isDisguised = false := by
  -- What is disguised is a tagged scalar, which no name finds.
  have apart : ∀ key : Value, key.isDisguised = true → key.isRecognised = false := by
    intro key disguised
    cases key <;> simp_all [Value.isDisguised, Value.isRecognised, sameKey_text_iff]
  have split : (document.filter fun entry => !(entry.1.isRecognised || entry.1.isDisguised)) =
      (document.filter fun entry => !entry.1.isRecognised).filter fun entry => !entry.1.isDisguised := by
    rw [List.filter_filter]
    exact List.filter_congr fun entry _ => by simp [Bool.and_comm]
  constructor
  · intro all entry member
    -- As many entries are left as warnings are given, so the second filter leaves none out.
    have lengths := warned.length_eq.trans all.length_eq.symm
    rw [split] at lengths
    by_contra disguised
    have disguised : entry.1.isDisguised = true := by simpa using disguised
    have kept := List.length_filter_eq_length_iff.mp lengths entry (by simp [member, apart entry.1 disguised])
    simp [disguised] at kept
  · intro honest
    rw [split, List.filter_eq_self.mpr] at warned
    · exact warned
    · exact fun entry inside => by simp [honest entry (List.mem_of_mem_filter inside)]

/-- The scan of a key breaks off exactly where the key cannot be shown. -/
theorem unknownKeyFindings_eq_error_iff {cause : Unprintable} :
    unknownKeyFindings lines key = .error cause ↔ key.shown = .error cause := by
  constructor
  · intro broken
    cases shown : key.shown with
    | error found =>
      rw [unknownKeyFindings_of_error shown] at broken
      exact congrArg _ (Except.error.inj broken)
    | ok name =>
      -- Whether or not the name is a known one, the scan goes on behind it.
      by_cases known : name ∈ topLevelKeys
      · simp [unknownKeyFindings_of_mem shown known] at broken
      · obtain ⟨finding, one, -⟩ := unknownKeyFindings_of_not_mem shown known lines .null
        simp [one] at broken
  · exact unknownKeyFindings_of_error

/-- The scan of the top level warns, in the order of the document, of exactly the entries that no recognised name
finds, but for tagged scalars with the text of such a name; so it warns of all of them exactly if there is no such
scalar. It breaks off only where a key cannot be shown, as it has an integer beyond the limit or leads back. -/
theorem unknownKeys_warned (document : Entries) (lines : List Line) :
    (∃ found, checkUnknownKeys document lines = .ok found ∧
      List.Forall₂ (WarnsOf lines)
        (document.filter fun entry => !(entry.1.isRecognised || entry.1.isDisguised)) found ∧
      (List.Forall₂ (WarnsOf lines) (document.filter fun entry => !entry.1.isRecognised) found ↔
        ∀ entry ∈ document, entry.1.isDisguised = false)) ∨
    ∃ entry ∈ document, (entry.1.hasLongInteger = true ∨ entry.1.leadsBack = true) ∧
      ∃ cause, entry.1.shown = .error cause ∧ checkUnknownKeys document lines = .error cause := by
  -- The scan breaks off at a key that cannot be shown, or else goes through all entries.
  cases scanned : checkUnknownKeys document lines with
  | error cause =>
    obtain ⟨entry, member, broken⟩ := gather_eq_error scanned
    have unshown := unknownKeyFindings_eq_error_iff.mp broken
    exact .inr ⟨entry, member, long_or_back_of_shown unshown, cause, unshown, rfl⟩
  | ok found =>
    have warned := checkUnknownKeys_warns scanned
    exact .inl ⟨found, rfl, warned, warns_unrecognised_iff warned⟩

/-- A plan whose releases stand under a key with an explicit tag, though it is the tag of texts. -/
def taggedReleasesText : List Char := "project: p\n!!str releases: 5\n".toList

/-- What is read from it. -/
def taggedReleases : Entries :=
  [(.text "project", .text "p"), (.tagged "tag:yaml.org,2002:str" .plain "releases", .int 5)]

/-- The texts and the number of such a document, which can be compared. -/
def taggedReleasesOf? : Except Breakdown ParseOutcome → Option (String × String × String × String × Int)
  | .ok ⟨some [(.text project, .text p), (.tagged tag .plain name, .int n)], []⟩ => some (project, p, tag, name, n)
  | _ => none

/-- The key keeps its tag, so it is no text. -/
theorem taggedReleases_read :
    parseDocument taggedReleasesText (splitLines taggedReleasesText) false = .ok ⟨some taggedReleases, []⟩ := by
  -- Values have no decidable equality, so the texts in the document are computed instead.
  have read : taggedReleasesOf? (parseDocument taggedReleasesText (splitLines taggedReleasesText) false) =
      some ("project", "p", "tag:yaml.org,2002:str", "releases", 5) := by
    decide +kernel
  unfold taggedReleasesOf? at read
  split at read
  · rename_i parsed
    rw [parsed]
    simp only [Option.some.injEq, Prod.mk.injEq] at read
    simp [taggedReleases, read]
  · simp at read

/-- No rule looks at its releases, and the scan does not warn of their key. -/
theorem taggedReleases_unreported :
    parseDocument taggedReleasesText (splitLines taggedReleasesText) false = .ok ⟨some taggedReleases, []⟩ ∧
      valueUnder taggedReleases "releases" = .null ∧
      checkUnknownKeys taggedReleases (splitLines taggedReleasesText) = .ok [] ∧
      ¬ ∃ found, checkUnknownKeys taggedReleases (splitLines taggedReleasesText) = .ok found ∧
        List.Forall₂ (WarnsOf (splitLines taggedReleasesText))
          (taggedReleases.filter fun entry => !entry.1.isRecognised) found := by
  have silent : checkUnknownKeys taggedReleases (splitLines taggedReleasesText) = .ok [] := by rfl
  have unread : (taggedReleases.filter fun entry => !entry.1.isRecognised).length = 1 := by decide
  refine ⟨taggedReleases_read, rfl, silent, ?_⟩
  -- One entry is unrecognised, but no warning is given.
  rintro ⟨found, scanned, warned⟩
  obtain rfl := Except.ok.inj (silent.symm.trans scanned)
  exact absurd (warned.length_eq.symm.trans unread) (by simp)

end PlanLint
