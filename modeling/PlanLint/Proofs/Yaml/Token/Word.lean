import PlanLint.Proofs.Yaml.Place
import PlanLint.Yaml.Token.Plain
import PlanLint.Yaml.Token.Quoted

/-! Words of letters, digits and points: how a cursor passes them, and how they are read with quotes and
without. -/

namespace PlanLint

/-- A letter or digit of ASCII, or a point. -/
def isSimpleCharacter (c : Char) : Bool := c.isAlphanum || c == '.'

/-- A word is not empty. -/
structure IsWord (word : List Char) : Prop where
  written : word ≠ []
  all : ∀ c ∈ word, isSimpleCharacter c = true

/-- A mark some characters further on its line. -/
def Mark.along (mark : Mark) (count : Nat) : Mark := ⟨mark.index + count, mark.line, mark.column + count⟩

/-- A mark at the start of the next line. -/
def Mark.below (mark : Mark) : Mark := ⟨mark.index + 1, mark.line + 1, 0⟩

variable {c : Char} {word rest : List Char} {cursor : Cursor}

/-- What a look at each character of a word shows. -/
theorem of_isSimpleCharacter {P : Char → Prop}
    (all : ∀ n < 128, isSimpleCharacter (Char.ofNat n) = true → P (Char.ofNat n))
    (inWord : isSimpleCharacter c = true) :
    P c := by
  -- Letters of both cases, digits and the underscore all have codes below 128.
  have small : c.toNat < 128 := by
    unfold isSimpleCharacter Char.isAlphanum Char.isAlpha Char.isUpper Char.isLower Char.isDigit at inWord
    simp only [Bool.or_eq_true, Bool.and_eq_true, decide_eq_true_eq, beq_iff_eq, ge_iff_le,
      UInt32.le_iff_toNat_le] at inWord
    have code : c.val.toNat = c.toNat := rfl
    rcases inWord with ((inWord | inWord) | inWord) | rfl
    · exact Nat.lt_of_le_of_lt inWord.2 (by decide)
    · exact Nat.lt_of_le_of_lt inWord.2 (by decide)
    · exact Nat.lt_of_le_of_lt inWord.2 (by decide)
    · decide
  have shown := all c.toNat small
  rw [Char.ofNat_toNat] at shown
  exact shown inWord

/-- A character of a word ends no word and has no meaning of its own, with quotes or without. -/
theorem plain_of_isSimpleCharacter (inWord : isSimpleCharacter c = true) :
    endsWord c = false ∧ isOrdinary c = true ∧ breaksLine c = false ∧ c ≠ ':' ∧ c ≠ '#' ∧ c ≠ ' ' ∧
      c ≠ byteOrderMark :=
  of_isSimpleCharacter (P := fun c => endsWord c = false ∧ isOrdinary c = true ∧ breaksLine c = false ∧ c ≠ ':' ∧
    c ≠ '#' ∧ c ≠ ' ' ∧ c ≠ byteOrderMark) (by decide +kernel) inWord

/-- A cursor passes a character that is no line break in a column. -/
theorem Cursor.next_along (front : cursor.rest = c :: rest) (same : breaksLine c = false)
    (wide : c ≠ byteOrderMark) :
    cursor.next = ⟨rest, cursor.mark.along 1⟩ := by
  -- Line breaks move to another line, and the byte order mark takes up no column.
  have noBreak : c ≠ '\n' ∧ c ≠ '\r' := by
    constructor
    · rintro rfl
      exact absurd same (by decide)
    · rintro rfl
      exact absurd same (by decide)
  rw [Cursor.next, front]
  simp [Mark.behind, Mark.along, noBreak, wide]

/-- A cursor passes a word in as many columns as it has characters. -/
theorem Cursor.skip_word (all : ∀ c ∈ word, isSimpleCharacter c = true) (front : cursor.rest = word ++ rest) :
    cursor.skip word.length = ⟨rest, cursor.mark.along word.length⟩ := by
  -- Induction on the word, one column for each character.
  induction word generalizing cursor with
  | nil =>
    obtain ⟨characters, mark⟩ := cursor
    simpa [Cursor.skip, Mark.along] using front
  | cons c word ih =>
    obtain ⟨-, -, same, -, -, -, wide⟩ := plain_of_isSimpleCharacter (all c List.mem_cons_self)
    have next := Cursor.next_along front same wide
    rw [List.length_cons, Cursor.skip, next, ih (fun d inside => all d (List.mem_cons_of_mem _ inside)) rfl]
    simp only [Mark.along, Cursor.mk.injEq, Mark.mk.injEq, true_and]
    omega

/-- Where a plain word ends: at the end of the text or of the line, or at the colon behind a key. -/
inductive EndsPlain : List Char → Prop
  | text : EndsPlain []
  | line {rest : List Char} : EndsPlain ('\n' :: rest)
  | key {rest : List Char} : EndsPlain (':' :: ' ' :: rest)

/-- A plain word is one run. -/
theorem plainRun_word (least : Nat) (all : ∀ c ∈ word, isSimpleCharacter c = true) (ends : EndsPlain rest) :
    plainRun ⟨false, false, least⟩ (word ++ rest) = word := by
  -- Induction on the word: no character of it is a sign that depends on the next one.
  induction word with
  | nil =>
    cases ends with
    | text => rfl
    | line => rfl
    | key => rfl
  | cons c word ih =>
    obtain ⟨inside, -, -, noColon, -⟩ := plain_of_isSimpleCharacter (all c List.mem_cons_self)
    have belongs : ∀ next, isPlain ⟨false, false, least⟩ c next = true := by
      intro next
      simp [isPlain, inside, noColon]
    rw [List.cons_append, plainRun, if_pos (belongs _), ih fun d member => all d (List.mem_cons_of_mem _ member)]

/-- Where another line may start, or the text ends: no blank, no comment, no line break and no marker. -/
structure StartsLine (rest : List Char) : Prop where
  solid : ∀ c ∈ rest.head?, isSimpleCharacter c = true
  unmarked : ¬ ['.', '.', '.'] <+: rest

/-- The first character of a word, and of a text that starts with it. -/
theorem IsWord.exists_peek (isWord : IsWord word) (front : cursor.rest = word ++ rest) :
    ∃ first, isSimpleCharacter first = true ∧ cursor.peek = first := by
  -- A word is not empty.
  obtain ⟨first, more, rfl⟩ := List.exists_cons_of_ne_nil isWord.written
  exact ⟨first, isWord.all first List.mem_cons_self, Cursor.peek_eq front⟩

/-- The first run of a plain scalar is a word, and what stands behind the word decides whether it goes on. -/
theorem readPlain_run (least : Nat) (isWord : IsWord word) (front : cursor.rest = word ++ rest)
    (ends : EndsPlain rest) : ∃ fuel, readPlain ⟨false, false, least⟩ cursor =
      match plainGap? ⟨rest, cursor.mark.along word.length⟩ with
      | none => ⟨word, cursor.mark.along word.length, ⟨rest, cursor.mark.along word.length⟩, false⟩
      | some gap =>
        let read : PlainScalar := ⟨word, cursor.mark.along word.length, gap.cursor, gap.crossed⟩
        if gap.closed || gap.cursor.mark.column < least then read
        else plainFrom ⟨false, false, least⟩ fuel read gap.text := by
  have run : plainRun ⟨false, false, least⟩ cursor.rest = word := by
    rw [front, plainRun_word least isWord.all ends]
  have behind := Cursor.skip_word isWord.all front
  obtain ⟨first, inWord, here⟩ := isWord.exists_peek front
  -- The word does not start with the sign of a comment, and so a run is taken.
  have noSign : (cursor.peek == '#') = false := by
    rw [here]
    simpa using (plain_of_isSimpleCharacter inWord).2.2.2.2.1
  refine ⟨cursor.rest.length, ?_⟩
  rw [readPlain, plainFrom]
  simp only [noSign, Bool.false_eq_true, if_false, run]
  split
  · exact absurd rfl isWord.written
  · simp only [List.append_nil, List.nil_append, behind]
    rfl

/-- A plain word is read up to the end of the text or to the colon behind a key. -/
theorem readPlain_word (least : Nat) (isWord : IsWord word) (front : cursor.rest = word ++ rest)
    (ends : EndsPlain rest) (here : rest.head? ≠ some '\n') :
    readPlain ⟨false, false, least⟩ cursor =
      ⟨word, cursor.mark.along word.length, ⟨rest, cursor.mark.along word.length⟩, false⟩ := by
  -- Only spaces and line breaks are gaps that a scalar can go on behind.
  have noGap : plainGap? ⟨rest, cursor.mark.along word.length⟩ = none := by
    cases ends with
    | text => rfl
    | line => simp at here
    | key => rfl
  obtain ⟨fuel, read⟩ := readPlain_run least isWord front ends
  rw [read, noGap]

/-- At a character that breaks no line there is no line break of any kind. -/
theorem Cursor.lineBreak?_none (noBreak : breaksLine c = false) (rest : List Char) (mark : Mark) :
    Cursor.lineBreak? ⟨c :: rest, mark⟩ = none := by
  -- Besides the characters that break a line in any version there are three to rule out.
  have other : c ≠ '\r' ∧ c ≠ '\u2028' ∧ c ≠ '\u2029' := by
    refine ⟨?_, ?_, ?_⟩
    all_goals
      rintro rfl
      exact absurd noBreak (by decide)
  simp [Cursor.lineBreak?, noBreak, other]

/-- No line break stands where a word may start. -/
theorem StartsLine.lineBreak?_eq (starts : StartsLine rest) (mark : Mark) :
    Cursor.lineBreak? ⟨rest, mark⟩ = none := by
  -- A character that starts a word breaks no line.
  cases rest with
  | nil => rfl
  | cons c rest => exact Cursor.lineBreak?_none (plain_of_isSimpleCharacter (starts.solid c rfl)).2.2.1 rest mark

/-- No space stands there either. -/
theorem StartsLine.peek_ne (starts : StartsLine rest) (mark : Mark) {c : Char} (noWord : isSimpleCharacter c = false)
    (real : c ≠ endOfText) : Cursor.peek ⟨rest, mark⟩ ≠ c := by
  -- The character there starts a word, and at the end of the text there is none.
  cases rest with
  | nil => exact Ne.symm real
  | cons first rest =>
    rintro rfl
    exact absurd (starts.solid first rfl) (by simpa [Cursor.peek] using noWord)

/-- No marker between documents stands there. -/
theorem StartsLine.isAtMarker_eq (starts : StartsLine rest) (mark : Mark) :
    Cursor.isAtMarker ⟨rest, mark⟩ = false := by
  -- A dash starts no word. Points do, so that their marker is ruled out by the notion itself.
  have noDashes : ¬ ['-', '-', '-'] <+: rest := by
    rintro ⟨more, rfl⟩
    exact absurd (starts.solid '-' rfl) (by decide)
  have points : ['.', '.', '.'].isPrefixOf rest = false := by
    rw [Bool.eq_false_iff, ne_eq, List.isPrefixOf_iff_prefix]
    exact starts.unmarked
  have dashes : ['-', '-', '-'].isPrefixOf rest = false := by
    rw [Bool.eq_false_iff, ne_eq, List.isPrefixOf_iff_prefix]
    exact noDashes
  simp only [Cursor.isAtMarker, Cursor.isAtWord, dashes, points, Bool.false_and, Bool.or_self]

/-- A plain word is read over the end of its line, up to the start of the next one. -/
theorem readPlain_word_below {least : Nat} (isWord : IsWord word) (front : cursor.rest = word ++ '\n' :: rest)
    (starts : StartsLine rest) (deep : 0 < least) :
    readPlain ⟨false, false, least⟩ cursor =
      ⟨word, cursor.mark.along word.length, ⟨rest, (cursor.mark.along word.length).below⟩, true⟩ := by
  have gap : plainGap? ⟨'\n' :: rest, cursor.mark.along word.length⟩ =
      some ⟨[' '], ⟨rest, (cursor.mark.along word.length).below⟩, true, false⟩ := by
    -- The next line starts right behind the newline, at a column that the scalar may not go on in.
    have noBreaks : plainBreaks (rest.length + 1) ⟨rest, (cursor.mark.along word.length).below⟩ =
        ([], ⟨rest, (cursor.mark.along word.length).below⟩, false) := by
      rw [plainBreaks, if_neg (by simpa using starts.peek_ne _ (by decide) (by decide)), starts.lineBreak?_eq]
    have newline : Cursor.lineBreak? ⟨'\n' :: rest, cursor.mark.along word.length⟩ =
        some ('\n', ⟨rest, (cursor.mark.along word.length).below⟩) := rfl
    have noSpaces : Cursor.takeRun (· == ' ') ⟨'\n' :: rest, cursor.mark.along word.length⟩ =
        ([], ⟨'\n' :: rest, cursor.mark.along word.length⟩) := rfl
    simp only [plainGap?, noSpaces, newline, starts.isAtMarker_eq, noBreaks]
    rfl
  obtain ⟨fuel, read⟩ := readPlain_run least isWord front .line
  rw [read, gap]
  simp [Mark.below, deep]

/-- The quote of a style. -/
def quoteOf (double : Bool) : Char := if double then '"' else '\''

/-- A word inside quotes is one run, which the closing quote ends. -/
theorem quotedRun_word (double : Bool) (started : Mark) (fuel : Nat) (all : ∀ c ∈ word, isSimpleCharacter c = true)
    (front : cursor.rest = word ++ quoteOf double :: rest) (closed : rest.head? ≠ some '\'') :
    quotedRun double started (fuel + 1) cursor =
      .ok (word, ⟨quoteOf double :: rest, cursor.mark.along word.length⟩) := by
  have stop : isOrdinary (quoteOf double) = false := by cases double <;> decide
  have run : cursor.takeRun isOrdinary = (word, ⟨quoteOf double :: rest, cursor.mark.along word.length⟩) := by
    have taken : cursor.rest.takeWhile isOrdinary = word := by
      rw [front, List.takeWhile_append_of_pos fun c inside => (plain_of_isSimpleCharacter (all c inside)).2.1,
        List.takeWhile_cons_of_neg (by simp [stop]), List.append_nil]
    rw [Cursor.takeRun, taken, Cursor.skip_word all front]
  -- A second quote behind the closing one would be a quote inside the scalar.
  have single : Cursor.ahead ⟨quoteOf double :: rest, cursor.mark.along word.length⟩ 1 ≠ '\'' := by
    cases rest with
    | nil => simp [Cursor.ahead, endOfText]
    | cons c rest => simpa [Cursor.ahead] using closed
  rw [quotedRun, run]
  cases double with
  | true => simp [quoteOf, Cursor.peek]
  | false => simp [quoteOf, Cursor.peek] at single ⊢; simp [single]

/-- A word in quotes is read with its quotes. -/
theorem readQuoted_word (double : Bool) (all : ∀ c ∈ word, isSimpleCharacter c = true)
    (front : cursor.rest = quoteOf double :: (word ++ quoteOf double :: rest)) (closed : rest.head? ≠ some '\'') :
    readQuoted double cursor = .ok (word, ⟨rest, cursor.mark.along (word.length + 2)⟩) := by
  have sign : breaksLine (quoteOf double) = false ∧ quoteOf double ≠ byteOrderMark := by cases double <;> decide
  have opened := Cursor.next_along front sign.1 sign.2
  have run : quotedRun double cursor.mark (cursor.rest.length + 1) cursor.next =
      .ok (word, ⟨quoteOf double :: rest, cursor.next.mark.along word.length⟩) :=
    quotedRun_word double cursor.mark cursor.rest.length all (by rw [opened]) closed
  -- Behind the run stands the closing quote, so that there is no second run.
  have closing : ∀ mark : Mark, Cursor.next ⟨quoteOf double :: rest, mark⟩ = ⟨rest, mark.along 1⟩ := fun mark =>
    Cursor.next_along rfl sign.1 sign.2
  rw [readQuoted, run]
  simp only [Bind.bind, Except.bind]
  rw [quotedFrom, if_pos (by simp [quoteOf, Cursor.peek]), closing, opened]
  simp only [Pure.pure, Except.pure, List.append_nil, Mark.along, Except.ok.injEq, Prod.mk.injEq, Cursor.mk.injEq,
    Mark.mk.injEq, true_and]
  omega

end PlanLint
