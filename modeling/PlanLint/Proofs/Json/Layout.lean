import Mathlib.Data.Bool.AllAny
import Mathlib.Data.List.Induction
import PlanLint.Proofs.Json.Spelling

/-! Objects as they are written, with blanks at all places where JSON allows them, are read back member by
member. -/

namespace PlanLint

/-- Characters that may stand between the signs of a JSON text. -/
structure JsonBlanks where
  chars : List Char
  blank : ∀ c ∈ chars, isJsonBlank c = true

/-- A member of an object as it is written: how its name and its value are spelled, and the blanks around them. -/
structure WrittenMember (limit : Nat) where
  name : String
  value : Json
  spelledName : List Char
  spelledValue : List Char
  spellsName : SpellsText name.toList spelledName
  spellsValue : SpellsValue limit value spelledValue
  beforeName : JsonBlanks
  behindName : JsonBlanks
  beforeValue : JsonBlanks
  behindValue : JsonBlanks

/-- An object as it is written, with at least one member. -/
structure WrittenObject (limit : Nat) where
  first : WrittenMember limit
  more : List (WrittenMember limit)
  before : JsonBlanks
  behind : JsonBlanks

variable {limit : Nat} {value : Json} {spelled rest : List Char}

/-- A member from its quote on. -/
def WrittenMember.opened (m : WrittenMember limit) : List Char :=
  '"' :: (m.spelledName ++ '"' :: (m.behindName.chars ++
    ':' :: (m.beforeValue.chars ++ (m.spelledValue ++ m.behindValue.chars))))

/-- A member with the blanks in front of it. -/
def WrittenMember.text (m : WrittenMember limit) : List Char := m.beforeName.chars ++ m.opened

/-- Members with a comma before each of them, and the brace behind the last one. -/
def moreMembersText (more : List (WrittenMember limit)) : List Char :=
  more.flatMap (fun m => ',' :: m.text) ++ ['}']

/-- The text of an object. -/
def WrittenObject.text (o : WrittenObject limit) : List Char :=
  o.before.chars ++ '{' :: (o.first.text ++ (moreMembersText o.more ++ o.behind.chars))

/-- The names and values in the order in which they are written. -/
def WrittenObject.members (o : WrittenObject limit) : List (String × Json) :=
  (o.first :: o.more).map fun m => (m.name, m.value)

/-- What may follow a value inside an object. -/
def EndsValue (rest : List Char) : Prop := ∃ c ∈ [' ', '\t', '\n', '\r', ',', '}'], rest.head? = some c

/-- Blanks are passed over as a whole. -/
theorem skipJsonBlanks_append (blanks : JsonBlanks) (rest : List Char) :
    skipJsonBlanks (blanks.chars ++ rest) = skipJsonBlanks rest :=
  List.dropWhile_append_of_pos blanks.blank

/-- A sign is not passed over. -/
theorem skipJsonBlanks_sign {c : Char} (sign : isJsonBlank c = false) (rest : List Char) :
    skipJsonBlanks (c :: rest) = c :: rest := by
  -- The first character that is no blank ends the blanks.
  rw [skipJsonBlanks, List.dropWhile_cons_of_neg (by simp [sign])]

/-- Behind a value the number that it may be does not go on. -/
theorem EndsValue.number_ends (ends : EndsValue rest) :
    rest.takeWhile isAsciiDigit = [] ∧ leadingFraction rest = [] ∧ leadingExponent rest = none := by
  obtain ⟨c, known, head⟩ := ends
  obtain ⟨more, rfl⟩ := List.head?_eq_some_iff.mp head
  -- What may follow is neither a digit nor a sign that a number may hold.
  have noDigit : ∀ c ∈ [' ', '\t', '\n', '\r', ',', '}'], isAsciiDigit c = false ∧ c ≠ '.' ∧ c ≠ 'e' ∧ c ≠ 'E' :=
    List.all_iff_forall_prop.mp rfl
  obtain ⟨digit, point, small, capital⟩ := noDigit c known
  refine ⟨?_, ?_, ?_⟩
  · rw [List.takeWhile_cons_of_neg (by simp [digit])]
  · unfold leadingFraction
    split
    · simp_all
    · rfl
  · simp [leadingExponent, small, capital]

/-- The digits of a number are read up to their end. -/
theorem readNumber_digits {n : Nat} (few : (Nat.toDigits 10 n).length ≤ limit) (ends : EndsValue rest) :
    readNumber (some limit) false (Nat.toDigits 10 n ++ rest) = some (.ok (.int n, rest)) := by
  obtain ⟨stops, noFraction, noExponent⟩ := ends.number_ends
  have all : ∀ c ∈ Nat.toDigits 10 n, isAsciiDigit c = true := fun c => isAsciiDigit_of_mem_toDigits
  have run : (Nat.toDigits 10 n ++ rest).takeWhile isAsciiDigit = Nat.toDigits 10 n := by
    rw [List.takeWhile_append_of_pos all, stops, List.append_nil]
  have spelled : asciiNumber (Nat.toDigits 10 n) = n := ofDigits_toDigits n
  unfold readNumber
  extract_lets whole
  -- A zero at the start is a number by itself, and then it is the whole number.
  have isWhole : whole = Nat.toDigits 10 n := by
    unfold whole
    split
    · rename_i zero
      rcases Nat.eq_zero_or_pos n with rfl | positive
      · rfl
      · have head := head?_toDigits positive
        obtain ⟨first, more, digits⟩ := List.exists_cons_of_ne_nil (Nat.toDigits_ne_nil (n := n) (b := 10))
        simp_all
    · exact run
  clear_value whole
  subst isWhole
  simp +zetaDelta [noFraction, noExponent, spelled, Nat.toDigits_ne_nil, few]

/-- What starts with a digit is a number without a sign. -/
theorem readAtom_of_digit {first : Char} (digit : isAsciiDigit first = true) (more : List Char) {json : Json}
    (read : readNumber (some limit) false (first :: more) = some (.ok (json, rest))) :
    readAtom (some limit) (first :: more) = .ok (json, rest) := by
  -- No word starts with a digit.
  have other : ∀ c, isAsciiDigit c = false → c ≠ first := by
    rintro c noDigit rfl
    simp [digit] at noDigit
  unfold readAtom
  extract_lets missing word infinity words
  have noWord : ∀ (name : String) (c : Char) (tail : List Char) (value : Json), name.toList = c :: tail →
      isAsciiDigit c = false → word name value = none := by
    intro name c tail value letters noDigit
    simp [word, letters, other c noDigit]
  have none_found : words.findSome? id = none := by
    simp only [words]
    rw [noWord "null" 'n' _ _ rfl rfl, noWord "true" 't' _ _ rfl rfl, noWord "false" 'f' _ _ rfl rfl,
      noWord "NaN" 'N' _ _ rfl rfl, noWord "Infinity" 'I' _ _ rfl rfl, noWord "-Infinity" '-' _ _ rfl rfl]
    rfl
  rw [none_found]
  split
  · simp_all
  · split
    · rename_i minus
      have := other '-' rfl
      simp_all
    · rw [read]
      rfl

/-- A value is read from whatever spells it, if it ends there. -/
theorem SpellsValue.read (fuel : Nat) (spells : SpellsValue limit value spelled) (ends : EndsValue rest) :
    readJson (some limit) (fuel + 1) (spelled ++ rest) = .ok (value, rest) := by
  cases spells with
  | isTrue =>
    have size : "true".length = 4 := by decide
    simp [readJson, readAtom, size]
  | isFalse =>
    have size : "false".length = 5 := by decide
    simp [readJson, readAtom, size]
  | string spells =>
    rw [List.cons_append, List.append_assoc, List.singleton_append, readJson, readString_spelled spells]
    rfl
  | number few =>
    rename_i n
    have read := readNumber_digits few ends
    have all : ∀ c ∈ Nat.toDigits 10 n, isAsciiDigit c = true := fun c => isAsciiDigit_of_mem_toDigits
    obtain ⟨first, more, digits⟩ := List.exists_cons_of_ne_nil (Nat.toDigits_ne_nil (n := n) (b := 10))
    have digit : isAsciiDigit first = true := all first (by simp [digits])
    rw [digits, List.cons_append] at read ⊢
    rw [readJson]
    · exact readAtom_of_digit digit _ read
    -- A digit opens neither a list nor an object nor a string.
    all_goals
      intro _ equal
      rw [List.cons.injEq] at equal
      rw [equal.1] at digit
      exact absurd digit (by decide)

/-- What spells a value holds no control character. -/
theorem SpellsValue.visible (spells : SpellsValue limit value spelled) : ∀ c ∈ spelled, 0x1F < c.toNat := by
  -- Words and digits are plain characters, and a string tells it of its own parts.
  cases spells with
  | isTrue => exact List.all_iff_forall_prop.mp rfl
  | isFalse => exact List.all_iff_forall_prop.mp rfl
  | number few =>
    intro c inside
    have digit := isAsciiDigit_of_mem_toDigits inside
    simp only [isAsciiDigit, Bool.and_eq_true, decide_eq_true_eq, Char.le_def, UInt32.le_iff_toNat_le] at digit
    exact Nat.lt_of_lt_of_le (by decide) digit.1
  | string spells =>
    have quote : 0x1F < '"'.toNat := by decide
    intro c inside
    simp only [List.mem_cons, List.mem_append, List.not_mem_nil, or_false] at inside
    rcases inside with rfl | inside | rfl
    · exact quote
    · exact spells.visible c inside
    · exact quote

/-- What spells a value is not empty. -/
theorem SpellsValue.ne_nil (spells : SpellsValue limit value spelled) : spelled ≠ [] := by
  -- Only digits need an argument; the other spellings start with a given character.
  cases spells with
  | number few => exact Nat.toDigits_ne_nil
  | _ => simp

/-- A value does not start with a blank. -/
theorem SpellsValue.skipJsonBlanks_eq (spells : SpellsValue limit value spelled) (rest : List Char) :
    skipJsonBlanks (spelled ++ rest) = spelled ++ rest := by
  cases spells with
  | isTrue => exact skipJsonBlanks_sign rfl _
  | isFalse => exact skipJsonBlanks_sign rfl _
  | string spells => exact skipJsonBlanks_sign rfl _
  | number few =>
    rename_i n
    obtain ⟨first, more, digits⟩ := List.exists_cons_of_ne_nil (Nat.toDigits_ne_nil (n := n) (b := 10))
    have digit : isAsciiDigit first = true := isAsciiDigit_of_mem_toDigits (n := n) (by simp [digits])
    -- The first sign of a word or of a string is known, that of a number is some digit.
    have noBlank : isJsonBlank first = false := by
      by_contra blank
      simp only [isJsonBlank, Bool.not_eq_false, Bool.or_eq_true, beq_iff_eq] at blank
      rcases blank with ((rfl | rfl) | rfl) | rfl
      all_goals exact absurd digit (by decide)
    rw [digits, List.cons_append]
    exact skipJsonBlanks_sign noBlank _

/-- Behind the blanks after a value stands a comma or a brace. -/
theorem moreMembersText_cons (more : List (WrittenMember limit)) (rest : List Char) :
    ∃ c tail, moreMembersText more ++ rest = c :: tail ∧ (c = ',' ∨ c = '}') := by
  -- The further members start with a comma, and behind the last one the object is closed.
  cases more with
  | nil => exact ⟨'}', rest, rfl, .inr rfl⟩
  | cons m more => exact ⟨',', m.text ++ (moreMembersText more ++ rest), by simp [moreMembersText], .inl rfl⟩

/-- A value inside an object ends where its spelling ends. -/
theorem endsValue_behind (blanks : JsonBlanks) (more : List (WrittenMember limit)) (rest : List Char) :
    EndsValue (blanks.chars ++ (moreMembersText more ++ rest)) := by
  -- Either a blank stands there, or the first sign behind the blanks.
  obtain ⟨sign, tail, text, isSign⟩ := moreMembersText_cons more rest
  obtain ⟨blanks, all⟩ := blanks
  cases blanks with
  | nil =>
    refine ⟨sign, ?_, by simp [text]⟩
    rcases isSign with rfl | rfl
    · decide
    · decide
  | cons blank blanks =>
    have isBlank := all blank List.mem_cons_self
    refine ⟨blank, ?_, rfl⟩
    simp only [isJsonBlank, Bool.or_eq_true, beq_iff_eq] at isBlank
    simp only [List.mem_cons]
    tauto

/-- A member is read up to the blanks behind its value, and what stands there decides how the object goes on. -/
theorem readMembers_opened (m : WrittenMember limit) (members : List (String × Json)) {behind : List Char}
    (ends : EndsValue (m.behindValue.chars ++ behind)) (fuel : Nat) :
    readMembers (some limit) (fuel + 2) members (m.opened ++ behind) =
      match skipJsonBlanks behind with
      | '}' :: rest => .ok (putMember members m.name m.value, rest)
      | ',' :: rest => readMembers (some limit) (fuel + 1) (putMember members m.name m.value) (skipJsonBlanks rest)
      | rest => .error ⟨.expectingComma, rest.length⟩ := by
  have value := m.spellsValue.read fuel ends
  -- A value does not start with a blank, so all blanks in front of it are passed over.
  have start := m.spellsValue.skipJsonBlanks_eq (m.behindValue.chars ++ behind)
  unfold WrittenMember.opened
  simp only [List.cons_append, List.append_assoc]
  rw [readMembers]
  rw [readString_spelled m.spellsName]
  simp only [Bind.bind, Except.bind, skipJsonBlanks_append, skipJsonBlanks_sign (c := ':') rfl]
  rw [start, value]
  simp only [skipJsonBlanks_append]
  rfl

/-- The members of an object are read one after the other, behind those that were read before. -/
theorem readMembers_written (m : WrittenMember limit) (more : List (WrittenMember limit))
    (members : List (String × Json)) (rest : List Char) {fuel : Nat} (enough : more.length < fuel) :
    readMembers (some limit) (fuel + 1) members (m.opened ++ (moreMembersText more ++ rest)) =
      .ok (((m :: more).map fun m => (m.name, m.value)).foldl (fun found m => putMember found m.1 m.2) members,
        rest) := by
  -- Induction on the members that follow; each takes a unit of fuel, and its value is read with what is left.
  induction more generalizing m members fuel with
  | nil =>
    obtain ⟨fuel, rfl⟩ := Nat.exists_eq_add_one_of_ne_zero (Nat.ne_zero_of_lt enough)
    rw [readMembers_opened m members (endsValue_behind m.behindValue [] rest)]
    rfl
  | cons next more ih =>
    obtain ⟨fuel, rfl⟩ := Nat.exists_eq_add_one_of_ne_zero (Nat.ne_zero_of_lt enough)
    have shorter : more.length < fuel := by simpa using enough
    have others := ih next (putMember members m.name m.value) shorter
    rw [readMembers_opened m members (endsValue_behind m.behindValue (next :: more) rest)]
    have comma : moreMembersText (next :: more) ++ rest =
        ',' :: (next.beforeName.chars ++ (next.opened ++ (moreMembersText more ++ rest))) := by
      simp [moreMembersText, WrittenMember.text]
    have quote : skipJsonBlanks (next.opened ++ (moreMembersText more ++ rest)) =
        next.opened ++ (moreMembersText more ++ rest) := skipJsonBlanks_sign rfl _
    rw [comma, skipJsonBlanks_sign rfl]
    simp only [skipJsonBlanks_append, quote]
    exact others

/-- The members that an object has once it is read. -/
def WrittenObject.read (o : WrittenObject limit) : List (String × Json) :=
  o.members.foldl (fun found m => putMember found m.1 m.2) []

/-- Each further member takes up some room. -/
theorem length_le_moreMembersText (more : List (WrittenMember limit)) :
    more.length < (moreMembersText more).length := by
  -- A member has its comma at least, and the brace at the end is one more.
  induction more with
  | nil => simp [moreMembersText]
  | cons m more ih =>
    simp only [moreMembersText, List.flatMap_cons, List.length_append, List.length_cons, List.length_nil] at ih ⊢
    omega

/-- No byte order mark stands at the start of an object. -/
theorem WrittenObject.head?_text (o : WrittenObject limit) : o.text.head? ≠ some '\ufeff' := by
  -- It starts with a blank or with its brace.
  obtain ⟨first, more, ⟨before, blank⟩, behind⟩ := o
  cases before with
  | nil => simp [WrittenObject.text]
  | cons c before =>
    intro mark
    have isBlank := blank c List.mem_cons_self
    rw [show c = '\ufeff' by simpa [WrittenObject.text] using mark] at isBlank
    exact absurd isBlank (by decide)

/-- An object is read from its brace on. -/
theorem WrittenObject.readJson_brace (o : WrittenObject limit) {fuel : Nat} (enough : o.more.length < fuel) :
    readJson (some limit) (fuel + 2) ('{' :: (o.first.text ++ (moreMembersText o.more ++ o.behind.chars))) =
      .ok (.obj o.read, o.behind.chars) := by
  have quote : skipJsonBlanks (o.first.text ++ (moreMembersText o.more ++ o.behind.chars)) =
      o.first.opened ++ (moreMembersText o.more ++ o.behind.chars) := by
    rw [WrittenMember.text, List.append_assoc, skipJsonBlanks_append]
    exact skipJsonBlanks_sign rfl _
  have members := readMembers_written o.first o.more [] o.behind.chars enough
  rw [readJson.eq_4, quote]
  split
  · -- No brace stands where the first name is opened.
    rename_i brace
    simp [WrittenMember.opened] at brace
  · rw [members]
    rfl

/-- An object is read from its text. -/
theorem WrittenObject.parse_text (o : WrittenObject limit) : Json.parse (some limit) o.text = .ok (.obj o.read) := by
  have opened : skipJsonBlanks o.text = '{' :: (o.first.text ++ (moreMembersText o.more ++ o.behind.chars)) := by
    rw [WrittenObject.text, skipJsonBlanks_append, skipJsonBlanks_sign rfl]
  -- The brace takes one unit of fuel, and what is left suffices for the members.
  obtain ⟨fuel, size, enough⟩ : ∃ fuel, o.text.length = fuel + 1 ∧ o.more.length < fuel := by
    have room := length_le_moreMembersText o.more
    refine ⟨o.text.length - 1, ?_, ?_⟩
    all_goals
      simp only [WrittenObject.text, WrittenMember.text, WrittenMember.opened, List.length_append, List.length_cons]
      omega
  have nothing_left : skipJsonBlanks o.behind.chars = [] := by
    simpa [skipJsonBlanks] using skipJsonBlanks_append o.behind []
  unfold Json.parse
  split
  · rename_i mark
    exact absurd (by rw [mark]; rfl) o.head?_text
  · rw [opened, size]
    dsimp only
    rw [o.readJson_brace enough]
    dsimp only
    rw [nothing_left]

/-- A member that is put into an object is found under its name, and no other name finds anything else. -/
theorem get?_putMember (members : List (String × Json)) (name key : String) (value : Json) :
    (Json.obj (putMember members name value)).get? key =
      if name = key then some value else (Json.obj members).get? key := by
  -- A member of that name is renewed in its place, and otherwise a new one stands behind all others.
  by_cases there : members.any (fun member => member.1 == name) = true
  · rw [putMember, if_pos there, Json.get?, Json.get?, List.find?_map]
    -- The members keep their names, so the same one is found as before.
    have kept :
        ((fun member => member.1 == key) ∘ fun member => if member.1 == name then (name, value) else member) =
        fun member : String × Json => member.1 == key := by
      funext member
      by_cases same : member.1 = name
      · simp [same]
      · simp [same]
    rw [kept]
    cases found : members.find? (fun member => member.1 == key) with
    | none =>
      have other : name ≠ key := by
        rintro rfl
        obtain ⟨member, inside, same⟩ := List.any_eq_true.mp there
        exact absurd same (List.find?_eq_none.mp found member inside)
      simp [other]
    | some member =>
      have same : member.1 = key := by simpa using List.find?_some found
      by_cases renewed : name = key
      · simp [same, renewed]
      · simp [same, renewed, Ne.symm renewed]
  · rw [putMember, if_neg there, Json.get?, Json.get?, List.find?_append]
    -- No other member has the name, so that the new one is the first with it.
    have absent : members.find? (fun member => member.1 == name) = none := by
      rw [List.find?_eq_none]
      intro member inside same
      exact there (List.any_eq_true.mpr ⟨member, inside, same⟩)
    split
    · rename_i same
      subst same
      simp [absent]
    · rename_i other
      simp [other]

/-- Under a name the last member is found that has it. -/
theorem WrittenObject.get?_read (o : WrittenObject limit) (name : String) :
    (Json.obj o.read).get? name = ((o.members.filter (·.1 == name)).getLast?).map (·.2) := by
  unfold WrittenObject.read
  -- Induction from the last member, which is put in after all others.
  induction o.members using List.reverseRecOn with
  | nil => rfl
  | append_singleton members last ih =>
    rw [List.foldl_append, List.foldl_cons, List.foldl_nil, get?_putMember, ih, List.filter_append]
    by_cases same : last.1 = name
    · simp [same]
    · simp [same]

end PlanLint
