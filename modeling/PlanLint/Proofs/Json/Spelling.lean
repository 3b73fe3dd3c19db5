import PlanLint.Json.Read
import PlanLint.Proofs.Text.Digit

/-! The ways in which JSON texts spell strings, truth values and whole numbers, and that each of them is read
back. -/

namespace PlanLint

/-- Four hexadecimal digits, capital or small, and the number that they spell. -/
def SpellsUnit (n : Nat) (digits : List Char) : Prop :=
  ∃ values : List Nat, values.length = 4 ∧ digits.map hexValue? = values.map some ∧ ofDigits 16 values = n

/-- A way to write a character between the quotes of a string. -/
inductive SpellsCharacter : Char → List Char → Prop
  /-- As itself, if it is no control character, quote or backslash. -/
  | plain {c : Char} (visible : 0x1F < c.toNat) (noQuote : c ≠ '"') (noSlash : c ≠ '\\') : SpellsCharacter c [c]
  /-- By an escape of one letter. -/
  | escape {c letter : Char} (known : simpleEscape? letter = some c) : SpellsCharacter c ['\\', letter]
  /-- By its code. -/
  | unit {c : Char} {digits : List Char} (spells : SpellsUnit c.toNat digits) :
    SpellsCharacter c ('\\' :: 'u' :: digits)
  /-- By the two halves of a pair, if its code is too large for four digits. -/
  | pair {c : Char} {high low : Nat} {first second : List Char} (isHigh : 0xD800 ≤ high ∧ high < 0xDC00)
    (isLow : 0xDC00 ≤ low ∧ low < 0xE000) (joined : 0x10000 + (high - 0xD800) * 1024 + (low - 0xDC00) = c.toNat)
    (spellsHigh : SpellsUnit high first) (spellsLow : SpellsUnit low second) :
    SpellsCharacter c ('\\' :: 'u' :: first ++ '\\' :: 'u' :: second)

/-- A way to write a text between the quotes of a string, one character after the other. -/
inductive SpellsText : List Char → List Char → Prop
  | nil : SpellsText [] []
  | cons {c : Char} {text part more : List Char} (first : SpellsCharacter c part) (rest : SpellsText text more) :
    SpellsText (c :: text) (part ++ more)

/-- A way to write a truth value, a whole number of at most `limit` digits or a string. -/
inductive SpellsValue (limit : Nat) : Json → List Char → Prop
  | isTrue : SpellsValue limit (.bool true) "true".toList
  | isFalse : SpellsValue limit (.bool false) "false".toList
  | number {n : Nat} (few : (Nat.toDigits 10 n).length ≤ limit) : SpellsValue limit (.int n) (Nat.toDigits 10 n)
  | string {s : String} {spelled : List Char} (spells : SpellsText s.toList spelled) :
    SpellsValue limit (.str s) ('"' :: (spelled ++ ['"']))

variable {c : Char} {text part digits spelled rest : List Char}

/-- The digits of a unit are there, and then it is read as its number whatever follows. -/
theorem SpellsUnit.read {n : Nat} (spells : SpellsUnit n digits) :
    ∃ a b c d, digits = [a, b, c, d] ∧ ∀ rest, fourHex? (a :: b :: c :: d :: rest) = some n := by
  obtain ⟨values, four, known, spelled⟩ := spells
  -- There are as many digits as values, four.
  have size : digits.length = 4 := by simpa [four] using congrArg List.length known
  match digits, values, size, four with
  | [a, b, c, d], [v, w, x, y], _, _ =>
    simp only [List.map_cons, List.map_nil, List.cons.injEq, and_true] at known
    refine ⟨a, b, c, d, rfl, fun rest => ?_⟩
    simp [fourHex?, known, spelled]

/-- A unit holds no control character. -/
theorem SpellsUnit.visible {n : Nat} (spells : SpellsUnit n digits) : ∀ c ∈ digits, 0x1F < c.toNat := by
  -- Each digit has a value, and only visible characters have one.
  obtain ⟨values, -, known, -⟩ := spells
  intro c member
  have image : hexValue? c ∈ values.map some := known ▸ List.mem_map_of_mem member
  obtain ⟨n, -, value⟩ := List.mem_map.mp image
  exact visible_of_hexValue? value.symm

/-- What spells a character is not empty. -/
theorem SpellsCharacter.ne_nil (spells : SpellsCharacter c part) : part ≠ [] := by
  -- Each way to spell a character starts with one.
  cases spells <;> simp

/-- What spells a character holds no control character. -/
theorem SpellsCharacter.visible (spells : SpellsCharacter c part) : ∀ c ∈ part, 0x1F < c.toNat := by
  have slash : 0x1F < '\\'.toNat ∧ 0x1F < 'u'.toNat := by decide
  -- In each spelling a backslash, a sign behind it and the digits of units are all there is.
  intro x member
  cases spells with
  | plain visible => rwa [List.mem_singleton.mp member]
  | escape known =>
    rename_i letter
    -- Only letters and signs have a meaning behind a backslash.
    have visible : 0x1F < letter.toNat := by
      unfold simpleEscape? at known
      split at known
      all_goals first | decide | simp at known
    simp only [List.mem_cons, List.not_mem_nil, or_false] at member
    rcases member with rfl | rfl
    · exact slash.1
    · exact visible
  | unit spells =>
    rcases List.mem_cons.mp member with rfl | member
    · exact slash.1
    · rcases List.mem_cons.mp member with rfl | member
      · exact slash.2
      · exact spells.visible x member
  | pair isHigh isLow joined spellsHigh spellsLow =>
    simp only [List.cons_append, List.mem_cons, List.mem_append] at member
    rcases member with rfl | rfl | member | rfl | rfl | member
    · exact slash.1
    · exact slash.2
    · exact spellsHigh.visible x member
    · exact slash.1
    · exact slash.2
    · exact spellsLow.visible x member

/-- A text without quotes, backslashes and control characters may be written as it is. -/
theorem spellsText_self (plain : ∀ c ∈ text, 0x1F < c.toNat ∧ c ≠ '"' ∧ c ≠ '\\') : SpellsText text text := by
  -- Induction on the text: a plain character spells itself.
  induction text with
  | nil => exact .nil
  | cons c text ih =>
    obtain ⟨visible, noQuote, noSlash⟩ := plain c List.mem_cons_self
    exact .cons (.plain visible noQuote noSlash) (ih fun c inside => plain c (List.mem_cons_of_mem _ inside))

/-- No character is half of a pair of units. -/
theorem char_not_half (c : Char) : c.toNat < 0xD800 ∨ 0xDFFF < c.toNat := by
  -- The numbers of characters leave out exactly those of the halves.
  rcases c.valid with low | high
  · exact .inl low
  · exact .inr high.1

/-- A unit that is no half of a pair is read as the character with its number. -/
theorem readStringFrom_unitSpelled (opened fuel : Nat) {n : Nat} (spells : SpellsUnit n digits)
    (whole : n < 0xD800 ∨ 0xDFFF < n) (open_ : rest ≠ []) :
    readStringFrom opened (fuel + 1) ('\\' :: 'u' :: (digits ++ rest)) = (do
      let read ← readStringFrom opened fuel rest
      return (Char.ofNat n :: read.1, read.2)) := by
  obtain ⟨a, b, c, d, rfl, four⟩ := spells.read
  -- Only the first half of a pair makes the reader look at what follows.
  have no_pair : unitCharacter n rest = .ok (Char.ofNat n, 0) := by
    unfold unitCharacter
    split
    · rw [if_neg]
      simp
      omega
    · rfl
  simp only [List.cons_append, List.nil_append]
  rw [readStringFrom]
  simp [four, open_, no_pair, Bind.bind, Except.bind, Pure.pure, Except.pure]

/-- The two halves of a pair are read as one character. -/
theorem readStringFrom_pairSpelled (opened fuel : Nat) {high low : Nat} {first second : List Char}
    (isHigh : 0xD800 ≤ high ∧ high < 0xDC00) (isLow : 0xDC00 ≤ low ∧ low < 0xE000)
    (spellsHigh : SpellsUnit high first) (spellsLow : SpellsUnit low second) (open_ : rest ≠ []) :
    readStringFrom opened (fuel + 1) ('\\' :: 'u' :: (first ++ '\\' :: 'u' :: (second ++ rest))) = (do
      let read ← readStringFrom opened fuel rest
      return (Char.ofNat (0x10000 + (high - 0xD800) * 1024 + (low - 0xDC00)) :: read.1, read.2)) := by
  obtain ⟨a, b, c, d, rfl, four⟩ := spellsHigh.read
  obtain ⟨a', b', c', d', rfl, four'⟩ := spellsLow.read
  simp only [List.cons_append, List.nil_append]
  -- Behind the first four digits the reader looks for the second escape at once.
  rw [readStringFrom]
  simp [four, four', unitCharacter, open_, isHigh, isLow, Bind.bind, Except.bind, Pure.pure, Except.pure]

/-- A character is read from whatever spells it, if the string goes on or ends behind it. -/
theorem readStringFrom_characterSpelled (opened fuel : Nat) (spells : SpellsCharacter c part) (open_ : rest ≠ []) :
    readStringFrom opened (fuel + 1) (part ++ rest) = (do
      let read ← readStringFrom opened fuel rest
      return (c :: read.1, read.2)) := by
  -- A character that stands for itself is none of those that the reader tells apart before.
  have code : Char.ofNat c.toNat = c := Char.ofNat_toNat c
  cases spells with
  | plain visible noQuote noSlash =>
    rw [List.singleton_append, readStringFrom.eq_7 _ _ _ _ (by simp [noSlash]) (by simp [noQuote])
      (by simp [noSlash]) (by simp [noSlash]), if_neg (by omega)]
  | escape known =>
    rename_i letter
    -- The letter of an escape by code has no meaning of its own.
    have noCode : letter ≠ 'u' := by
      rintro rfl
      simp [simpleEscape?] at known
    rw [List.cons_append, List.singleton_append, readStringFrom.eq_6 _ _ _ _ (by simp [noCode])]
    simp [known]
  | unit spells =>
    have unit := readStringFrom_unitSpelled opened fuel spells (char_not_half c) open_
    rwa [code] at unit
  | pair isHigh isLow joined spellsHigh spellsLow =>
    have pair := readStringFrom_pairSpelled opened fuel isHigh isLow spellsHigh spellsLow open_
    rw [joined, code] at pair
    simpa using pair

/-- A text is read from whatever spells it, up to the closing quote. -/
theorem readStringFrom_textSpelled (opened fuel : Nat) (spells : SpellsText text spelled) (rest : List Char)
    (enough : text.length < fuel) : readStringFrom opened fuel (spelled ++ '"' :: rest) = .ok (text, rest) := by
  -- One unit of fuel for each character, and one for the closing quote.
  obtain ⟨fuel, rfl⟩ := Nat.exists_eq_add_one_of_ne_zero (Nat.ne_zero_of_lt enough)
  induction spells generalizing fuel with
  | nil => simp [readStringFrom]
  | cons first _ ih =>
    simp only [List.length_cons] at enough
    obtain ⟨fuel, rfl⟩ := Nat.exists_eq_add_one_of_ne_zero (n := fuel) (by omega)
    rw [List.append_assoc, readStringFrom_characterSpelled _ _ first (by simp), ih fuel (by omega)]
    rfl

/-- Every character takes up some room. -/
theorem SpellsText.length_le (spells : SpellsText text spelled) : text.length ≤ spelled.length := by
  -- Induction on the spelling: each character is spelled by one or more.
  induction spells with
  | nil => simp
  | cons first _ ih =>
    have room := List.length_pos_iff.mpr first.ne_nil
    rw [List.length_append, List.length_cons]
    omega

/-- A string is read from whatever spells it, behind its opening quote. -/
theorem readString_spelled {s : String} (spells : SpellsText s.toList spelled) (rest : List Char) :
    readString (spelled ++ '"' :: rest) = .ok (s, rest) := by
  -- The text is no longer than what spells it, so there is fuel enough.
  have room := spells.length_le
  rw [readString, readStringFrom_textSpelled _ _ spells rest]
  · simp [Bind.bind, Except.bind, Pure.pure, Except.pure]
  · rw [List.length_append]
    omega

/-- What spells a text holds no control character. -/
theorem SpellsText.visible (spells : SpellsText text spelled) : ∀ c ∈ spelled, 0x1F < c.toNat := by
  -- Induction on the spelling, one character of the text after the other.
  induction spells with
  | nil => simp
  | cons first _ ih =>
    intro c member
    rcases List.mem_append.mp member with member | member
    · exact first.visible c member
    · exact ih c member

end PlanLint
