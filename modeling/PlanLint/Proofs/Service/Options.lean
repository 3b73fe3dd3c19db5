import Mathlib.Data.List.TakeWhile
import PlanLint.Proofs.Json.Layout
import PlanLint.Proofs.Text.Lines
import PlanLint.Proofs.Text.Trim
import PlanLint.Service.Options

/-! Options that are written, into a file or into the environment, are the options in force. -/

namespace PlanLint

variable {text before word behind rest : List Char} {limit : Nat}

/-- A word that switches an option on, with any blanks around it and its letters small or capital. -/
def SwitchesOn (text : List Char) : Prop :=
  ∃ before word behind, text = before ++ word ++ behind ∧ (∀ c ∈ before ++ behind, isBlank c = true) ∧
    String.ofList (word.map Char.toLower) ∈ ["1", "true", "yes", "on"]

/-- What the variable for repeated keys may hold for a value of the option. -/
def SaysAllows (held : Option String) : Bool → Prop
  | true => ∃ text, held = some text ∧ SwitchesOn text.toList
  | false => ∀ text, held = some text → (∀ c ∈ text.toList, c.toNat < 128) ∧ ¬SwitchesOn text.toList

/-- An object in which both options are set, each by one member. -/
structure WrittenOptions (allows : Bool) (size : Nat) extends WrittenObject longestNumber where
  onlyAllows : toWrittenObject.members.filter (·.1 == allowsRepeatedName) = [(allowsRepeatedName, .bool allows)]
  onlySize : toWrittenObject.members.filter (·.1 == sizeLimitName) = [(sizeLimitName, .int size)]

/-- A character whose small letter is in ASCII is itself there. -/
theorem ascii_of_toLower {c : Char} (small : c.toLower.toNat < 128) : c.toNat < 128 := by
  -- Only capitals of ASCII are changed at all.
  unfold Char.toLower at small
  split at small
  · rename_i capital
    have last : c.val.toNat ≤ 'Z'.val.toNat := UInt32.le_iff_toNat_le.mp capital.2
    exact Nat.lt_of_le_of_lt last (by decide)
  · exact small

/-- A blank is its own small letter. -/
theorem toLower_blank {c : Char} (blank : isBlank c = true) : c.toLower = c := by
  -- No blank lies among the capitals.
  unfold Char.toLower
  rw [dif_neg]
  rintro ⟨above, below⟩
  have first : 65 ≤ c.toNat := UInt32.le_iff_toNat_le.mp above
  have last : c.toNat ≤ 90 := UInt32.le_iff_toNat_le.mp below
  simp [isBlank] at blank
  omega

/-- What is taken away from a text at its ends are blanks. -/
theorem exists_around_trim (text : List Char) :
    ∃ before behind, text = before ++ trim text ++ behind ∧ ∀ c ∈ before ++ behind, isBlank c = true := by
  -- Trimming takes the blanks in front and then, from behind, those at the end.
  refine ⟨text.takeWhile isBlank, ((trimStart text).reverse.takeWhile isBlank).reverse, ?_, ?_⟩
  · rw [List.append_assoc, trim, trimEnd, ← List.reverse_append, List.takeWhile_append_dropWhile,
      List.reverse_reverse, trimStart, List.takeWhile_append_dropWhile]
  · intro c inside
    rcases List.mem_append.mp inside with inside | inside
    · exact List.mem_takeWhile_imp inside
    · exact List.mem_takeWhile_imp (List.mem_reverse.mp inside)

/-- A text that switches on is recognised, whatever its blanks and letters. -/
theorem isSwitchedOn_of_switchesOn {s : String} (on : SwitchesOn s.toList) : isSwitchedOn s = true := by
  obtain ⟨before, word, behind, parts, blank, known⟩ := on
  -- The four words are in ASCII and have no blanks, so neither has a word whose small letters are one of them.
  have letters : ∀ w ∈ ["1", "true", "yes", "on"],
      w.toList ≠ [] ∧ ∀ c ∈ w.toList, c.toNat < 128 ∧ isBlank c = false := by
    simp [isBlank]
  obtain ⟨written, plain⟩ := letters _ known
  rw [String.toList_ofList] at written plain
  have lettersOf : ∀ c ∈ word, c.toLower.toNat < 128 ∧ isBlank c.toLower = false := fun c inside =>
    plain c.toLower (List.mem_map_of_mem inside)
  have spoken : ∀ c ∈ word, isBlank c = false := by
    intro c inside
    by_contra isBlank
    have blank : PlanLint.isBlank c = true := by simpa using isBlank
    have small := (lettersOf c inside).2
    rw [toLower_blank blank] at small
    simp [small] at blank
  have ascii : ∀ c ∈ word, c.toNat < 128 := fun c inside => ascii_of_toLower (lettersOf c inside).1
  rw [isSwitchedOn, parts, trim_between blank spoken (by simpa using written), smallLetters_eq_map ascii]
  exact List.contains_iff_mem.mpr known

/-- Only a text that switches on is recognised, among those of ASCII. -/
theorem switchesOn_of_isSwitchedOn {s : String} (ascii : ∀ c ∈ s.toList, c.toNat < 128)
    (on : isSwitchedOn s = true) : SwitchesOn s.toList := by
  -- In ASCII the small letters of a text are those of its characters.
  obtain ⟨before, behind, parts, blank⟩ := exists_around_trim s.toList
  have inside : ∀ c ∈ trim s.toList, c.toNat < 128 := by
    intro c member
    apply ascii
    rw [parts]
    simp [member]
  rw [isSwitchedOn, smallLetters_eq_map inside] at on
  exact ⟨before, trim s.toList, behind, parts, blank, List.contains_iff_mem.mp on⟩

/-- The characters of a number in decimal are none that numbers are trimmed of, signed with or grouped by. -/
theorem plain_of_isAsciiDigit {c : Char} (digit : isAsciiDigit c = true) :
    isWhiteSpace c = false ∧ c ≠ '-' ∧ c ≠ '+' ∧ c ≠ '.' ∧ c ≠ '_' := by
  -- A digit is in ASCII, where the finitely many characters are tried.
  have all : ∀ n < 128, isAsciiDigit (Char.ofNat n) = true → isWhiteSpace (Char.ofNat n) = false ∧
      Char.ofNat n ≠ '-' ∧ Char.ofNat n ≠ '+' ∧ Char.ofNat n ≠ '.' ∧ Char.ofNat n ≠ '_' := by decide +kernel
  have small : c.toNat ≤ '9'.toNat := by
    simp only [isAsciiDigit, Bool.and_eq_true, decide_eq_true_eq, Char.le_def, UInt32.le_iff_toNat_le] at digit
    exact digit.2
  have ascii : c.toNat < 128 := Nat.lt_of_le_of_lt small (by decide)
  simpa only [Char.ofNat_toNat] using all c.toNat ascii (by rwa [Char.ofNat_toNat])

/-- The decimal text of a positive number, with at most as many digits as are read, is the number. -/
theorem integerOfText_decimalText {n : Nat} (positive : 0 < n) (few : (Nat.toDigits 10 n).length ≤ longestNumber) :
    integerOfText (decimalText n).toList = .ok n := by
  have digits : ∀ c ∈ Nat.toDigits 10 n, isAsciiDigit c = true := fun c => isAsciiDigit_of_mem_toDigits
  have plain := fun c inside => plain_of_isAsciiDigit (digits c inside)
  -- Each step of the reader passes over such digits: trimming, the sign, the fraction and the groups.
  have trimmed : trimWhiteSpace (Nat.toDigits 10 n) = Nat.toDigits 10 n := by
    rw [trimWhiteSpace, dropWhile_none fun c inside => (plain c inside).1,
      dropWhile_none fun c inside => (plain c (List.mem_reverse.mp inside)).1, List.reverse_reverse]
  have unsigned : splitSign (Nat.toDigits 10 n) = (false, Nat.toDigits 10 n) := by
    unfold splitSign
    split
    · rename_i minus
      exact absurd rfl (plain '-' (by simp [minus])).2.1
    · rename_i plus
      exact absurd rfl (plain '+' (by simp [plus])).2.2.1
    · rfl
  have noPoint : withoutZeroFraction (Nat.toDigits 10 n) = Nat.toDigits 10 n := by
    have whole : (Nat.toDigits 10 n).takeWhile (· != '.') = Nat.toDigits 10 n := by
      rw [List.takeWhile_eq_self_iff]
      intro c inside
      simpa using (plain c inside).2.2.2.1
    rw [withoutZeroFraction, whole, ite_self]
  have number : unsignedNumber? (Nat.toDigits 10 n) = some n := by
    have together : piecesBetween '_' (Nat.toDigits 10 n) = [Nat.toDigits 10 n] :=
      piecesBetween_of_absent fun inside => absurd rfl (plain '_' inside).2.2.2.2
    have spelled := ofDigits_toDigits n
    rw [unsignedNumber?, if_neg (by simpa using head?_toDigits positive), groupedNumber?, together]
    simpa [spelled, Nat.toDigits_ne_nil] using digits
  rw [decimalText, String.toList_ofList, integerOfText]
  simp only [trimmed, unsigned, noPoint, number]
  rw [if_neg (by omega)]
  rfl

/-- Apart from a carriage return, a character stays. -/
theorem withNewlines_cons {c : Char} (other : c ≠ '\r') (rest : List Char) :
    withNewlines (c :: rest) = c :: withNewlines rest :=
  withNewlines.eq_3 c rest (fun _ same _ => other same) other

/-- Two parts have the newlines of each, unless the second one starts with a newline. -/
theorem withNewlines_append (text : List Char) (noNewline : rest.head? ≠ some '\n') :
    withNewlines (text ++ rest) = withNewlines text ++ withNewlines rest := by
  -- Induction along the returns of the first part; only at its end the second one matters.
  induction text using withNewlines.induct with
  | case1 text ih => simp [withNewlines, ih]
  | case2 text other ih =>
    have next : ∀ more, text ++ rest = '\n' :: more → False := by
      intro more starts
      cases text with
      | nil => exact noNewline (by simpa using congrArg List.head? starts)
      | cons c text =>
        obtain ⟨rfl, rfl⟩ := List.cons_eq_cons.mp starts
        exact other text rfl
    rw [List.cons_append, withNewlines.eq_2 _ next, withNewlines.eq_2 _ other, ih, List.cons_append]
  | case3 c text _ other ih =>
    rw [List.cons_append, withNewlines_cons other, withNewlines_cons other, ih, List.cons_append]
  | case4 => rfl

/-- A part without control characters stays as it is. -/
theorem withNewlines_visible (visible : ∀ c ∈ text, 0x1F < c.toNat) (rest : List Char) :
    withNewlines (text ++ rest) = text ++ withNewlines rest := by
  -- Induction on the part: a visible character is no carriage return.
  induction text with
  | nil => rfl
  | cons c text ih =>
    have other : c ≠ '\r' := by
      rintro rfl
      exact absurd (visible '\r' List.mem_cons_self) (by decide)
    rw [List.cons_append, withNewlines_cons other, ih fun c inside => visible c (List.mem_cons_of_mem _ inside),
      List.cons_append]

/-- Newlines are all that comes into a text. -/
theorem mem_withNewlines {c : Char} (text : List Char) (member : c ∈ withNewlines text) : c = '\n' ∨ c ∈ text := by
  -- Each case of the translation keeps a character or puts a newline in its place.
  induction text using withNewlines.induct with
  | case1 text ih => simp [withNewlines] at member; grind
  | case2 text other ih => rw [withNewlines.eq_2 _ other] at member; grind
  | case3 d text _ other ih => rw [withNewlines_cons other] at member; grind
  | case4 => exact .inr member

/-- Blanks with newlines alone at the ends of lines. -/
def JsonBlanks.withNewlines (blanks : JsonBlanks) : JsonBlanks where
  chars := PlanLint.withNewlines blanks.chars
  blank := by
    intro c inside
    rcases mem_withNewlines blanks.chars inside with rfl | inside
    · rfl
    · exact blanks.blank c inside

/-- A member with newlines alone at the ends of lines. -/
def WrittenMember.withNewlines (m : WrittenMember limit) : WrittenMember limit :=
  { m with
    beforeName := m.beforeName.withNewlines
    behindName := m.behindName.withNewlines
    beforeValue := m.beforeValue.withNewlines
    behindValue := m.behindValue.withNewlines }

/-- An object with newlines alone at the ends of lines. -/
def WrittenObject.withNewlines (o : WrittenObject limit) : WrittenObject limit where
  first := o.first.withNewlines
  more := o.more.map WrittenMember.withNewlines
  before := o.before.withNewlines
  behind := o.behind.withNewlines

/-- Blanks and a sign behind them. -/
theorem JsonBlanks.withNewlines_sign (blanks : JsonBlanks) {sign : Char} (visible : 0x1F < sign.toNat)
    (rest : List Char) : PlanLint.withNewlines (blanks.chars ++ sign :: rest) =
      blanks.withNewlines.chars ++ sign :: PlanLint.withNewlines rest := by
  -- The sign is visible, so it is neither of the characters that are translated.
  have noNewline : sign ≠ '\n' := by rintro rfl; exact absurd visible (by decide)
  have noReturn : sign ≠ '\r' := by rintro rfl; exact absurd visible (by decide)
  rw [withNewlines_append _ (by simpa using noNewline), withNewlines_cons noReturn]
  rfl

/-- A member from its quote on, and a sign behind it. -/
theorem WrittenMember.withNewlines_opened (m : WrittenMember limit) (noNewline : rest.head? ≠ some '\n') :
    PlanLint.withNewlines (m.opened ++ rest) = m.withNewlines.opened ++ PlanLint.withNewlines rest := by
  -- A value starts with something visible, so no newline follows the blanks before it.
  have valueStarts : (m.spelledValue ++ (m.behindValue.chars ++ rest)).head? ≠ some '\n' := by
    obtain ⟨first, spelled, same⟩ := List.exists_cons_of_ne_nil m.spellsValue.ne_nil
    have visible := m.spellsValue.visible first (by simp [same])
    rw [same]
    rintro ⟨⟩
    exact absurd visible (by decide)
  simp only [WrittenMember.opened, List.cons_append, List.append_assoc]
  rw [withNewlines_cons (by decide), withNewlines_visible m.spellsName.visible, withNewlines_cons (by decide),
    JsonBlanks.withNewlines_sign _ (by decide), withNewlines_append _ valueStarts,
    withNewlines_visible m.spellsValue.visible, withNewlines_append _ noNewline]
  rfl

/-- A member, and a sign behind it. -/
theorem WrittenMember.withNewlines_text (m : WrittenMember limit) (noNewline : rest.head? ≠ some '\n') :
    PlanLint.withNewlines (m.text ++ rest) = m.withNewlines.text ++ PlanLint.withNewlines rest := by
  -- What stands in front of the value is translated by itself, since no newline follows it.
  rw [WrittenMember.text, List.append_assoc, withNewlines_append _ (by simp [WrittenMember.opened]),
    m.withNewlines_opened noNewline, WrittenMember.text, List.append_assoc]
  rfl

/-- No newline stands behind the blanks after a value. -/
theorem moreMembersText_head? (more : List (WrittenMember limit)) (rest : List Char) :
    (moreMembersText more ++ rest).head? ≠ some '\n' := by
  -- Behind the value comes a comma or the brace.
  obtain ⟨sign, tail, text, isSign⟩ := moreMembersText_cons more rest
  rw [text, List.head?_cons]
  rcases isSign with rfl | rfl
  · decide
  · decide

/-- The further members, and what stands behind their brace. -/
theorem withNewlines_moreMembersText (more : List (WrittenMember limit)) (rest : List Char) :
    PlanLint.withNewlines (moreMembersText more ++ rest) =
      moreMembersText (more.map WrittenMember.withNewlines) ++ PlanLint.withNewlines rest := by
  induction more with
  | nil => exact withNewlines_cons (by decide) rest
  | cons m more ih =>
    -- A further member starts with its comma.
    have step : ∀ (m : WrittenMember limit) (more : List (WrittenMember limit)) (rest : List Char),
        moreMembersText (m :: more) ++ rest = ',' :: (m.text ++ (moreMembersText more ++ rest)) := by
      simp [moreMembersText]
    rw [List.map_cons, step, step, withNewlines_cons (by decide),
      m.withNewlines_text (moreMembersText_head? more rest), ih]

/-- The text of an object with newlines alone is that of an object with the same members. -/
theorem WrittenObject.withNewlines_text (o : WrittenObject limit) :
    PlanLint.withNewlines o.text = o.withNewlines.text := by
  -- The parts of an object are translated one after the other.
  rw [WrittenObject.text, JsonBlanks.withNewlines_sign _ (by decide),
    o.first.withNewlines_text (moreMembersText_head? o.more o.behind.chars),
    withNewlines_moreMembersText]
  rfl

/-- Newlines do not change the members. -/
theorem WrittenObject.members_withNewlines (o : WrittenObject limit) : o.withNewlines.members = o.members := by
  -- Only the blanks between members are translated.
  simp only [WrittenObject.members, WrittenObject.withNewlines, List.map_cons, List.map_map]
  rfl

/-- A file that sets both options is read as them. -/
theorem optionsOfFile_written {allows : Bool} {size : Nat} (file : WrittenOptions allows size)
    (positive : 0 < size) :
    optionsOfFile file.text = .ok ⟨allows, size, positive⟩ := by
  -- With newlines alone the file is an object with the same members, which is read as any written object.
  have read := file.toWrittenObject.withNewlines.parse_text
  have found := fun name => file.toWrittenObject.withNewlines.get?_read name
  simp only [WrittenObject.members_withNewlines] at found
  rw [optionsOfFile, WrittenObject.withNewlines_text, read]
  dsimp only
  rw [found, found, file.onlyAllows, file.onlySize]
  simp [optionsOf, booleanSetting, positiveSetting, integerSetting, positive]

/-- Variables that hold both options are read as them. -/
theorem optionsOfEnvironment_written {env : Environment} {allows : Bool} {size : Nat} (positive : 0 < size)
    (few : (Nat.toDigits 10 size).length ≤ longestNumber) (flagged : SaysAllows env.allowsRepeated allows)
    (sized : env.sizeLimit = some (decimalText size)) :
    optionsOfEnvironment env = .ok ⟨allows, size, positive⟩ := by
  have flag : env.allowsRepeated.any isSwitchedOn = allows := by
    cases allows with
    | true =>
      obtain ⟨text, held, on⟩ := flagged
      rw [held, Option.any_some, isSwitchedOn_of_switchesOn on]
    | false =>
      cases held : env.allowsRepeated with
      | none => rfl
      | some text =>
        obtain ⟨ascii, off⟩ := flagged text held
        rw [Option.any_some]
        -- A text that is recognised would switch the option on.
        by_contra on
        exact off (switchesOn_of_isSwitchedOn ascii (by simpa using on))
  rw [optionsOfEnvironment, flag, sized]
  simp [optionsOf, booleanSetting, positiveSetting, integerSetting, integerOfText_decimalText positive few, positive]

/-- Options are loaded as they are written: from a file that sets both, in any layout and with any further
members, whatever the environment holds; and without a file from variables that hold them. -/
theorem writtenOptions_loaded (allows : Bool) (size : Nat) (positive : 0 < size)
    (few : (Nat.toDigits 10 size).length ≤ longestNumber) :
    (∀ (env : Environment) (file : WrittenOptions allows size),
      loadOptions env (some file.text) = .ok ⟨allows, size, positive⟩) ∧
    (∀ env : Environment, SaysAllows env.allowsRepeated allows → env.sizeLimit = some (decimalText size) →
      loadOptions env none = .ok ⟨allows, size, positive⟩) := by
  -- A file comes before the environment, which only counts without one.
  constructor
  · intro env file
    exact optionsOfFile_written file positive
  · intro env flagged sized
    exact optionsOfEnvironment_written positive few flagged sized

/-- No blanks. -/
def JsonBlanks.none : JsonBlanks := ⟨[], by simp⟩

/-- A newline and a sign, both by escapes. -/
theorem spellsText_escaped : SpellsText ['\n', '!'] ['\\', 'n', '\\', 'u', '0', '0', '2', '1'] := by
  -- The first character has a short escape, the second is written by its code.
  have code : SpellsUnit '!'.toNat ['0', '0', '2', '1'] := ⟨[0, 0, 2, 1], rfl, by decide, by decide⟩
  have newline : SpellsCharacter '\n' ['\\', 'n'] := .escape rfl
  exact .cons newline (.cons (.unit code) .nil)

/-- A file in which the size comes first, a further member last, and blanks and escapes stand where they may. -/
def looseOptions : WrittenOptions true 12 where
  first := {
    name := sizeLimitName
    value := .int (12 : Nat)
    spelledName := sizeLimitName.toList
    spelledValue := Nat.toDigits 10 12
    spellsName := spellsText_self (List.all_iff_forall_prop.mp rfl)
    spellsValue := .number (by decide)
    beforeName := ⟨['\r', '\n', '\t'], List.all_iff_forall_prop.mp rfl⟩
    behindName := ⟨[' '], List.all_iff_forall_prop.mp rfl⟩
    beforeValue := .none
    behindValue := ⟨['\n'], List.all_iff_forall_prop.mp rfl⟩ }
  more := [
    { name := allowsRepeatedName
      value := .bool true
      spelledName := allowsRepeatedName.toList
      spelledValue := "true".toList
      spellsName := spellsText_self (List.all_iff_forall_prop.mp rfl)
      spellsValue := .isTrue
      beforeName := .none
      behindName := .none
      beforeValue := ⟨['\r'], List.all_iff_forall_prop.mp rfl⟩
      behindValue := .none },
    { name := "note"
      value := .str (String.ofList ['\n', '!'])
      spelledName := "note".toList
      spelledValue := '"' :: (['\\', 'n', '\\', 'u', '0', '0', '2', '1'] ++ ['"'])
      spellsName := spellsText_self (List.all_iff_forall_prop.mp rfl)
      spellsValue := .string (by rw [String.toList_ofList]; exact spellsText_escaped)
      beforeName := ⟨[' '], List.all_iff_forall_prop.mp rfl⟩
      behindName := .none
      beforeValue := ⟨[' '], List.all_iff_forall_prop.mp rfl⟩
      behindValue := .none }]
  before := .none
  behind := ⟨['\r', '\n'], List.all_iff_forall_prop.mp rfl⟩
  onlyAllows := rfl
  onlySize := rfl

/-- The loose file is loaded whatever the environment holds, and without it a variable with blanks and capitals
switches the option on. -/
theorem looseOptions_loaded :
    0 < 12 ∧ (Nat.toDigits 10 12).length ≤ longestNumber ∧ SaysAllows (some " YeS\t") true ∧
      looseOptions.text = ("\x7b\r\n\t\"max_document_bytes\" :12\n,\"allow_duplicate_keys\":\rtrue" ++
        ", \"note\": \"\\n\\u0021\"\x7d\r\n").toList ∧
      loadOptions ⟨some "off", some "7"⟩ (some looseOptions.text) = .ok ⟨true, 12, by decide⟩ ∧
      loadOptions ⟨some " YeS\t", some "12"⟩ none = .ok ⟨true, 12, by decide⟩ := by
  -- Both ways of loading are the general statement; the file as it is written out is computed.
  have flagged : SaysAllows (some " YeS\t") true :=
    ⟨" YeS\t", rfl, [' '], ['Y', 'e', 'S'], ['\t'], by decide, List.all_iff_forall_prop.mp rfl, by decide⟩
  have loaded := writtenOptions_loaded true 12 (by decide) (by decide)
  exact ⟨by decide, by decide, flagged, by decide, loaded.1 _ looseOptions, loaded.2 _ flagged rfl⟩

end PlanLint
