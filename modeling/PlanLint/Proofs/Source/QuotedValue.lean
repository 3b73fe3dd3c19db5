import PlanLint.Proofs.Source.Comment
import PlanLint.Proofs.Source.WrittenMapping

/-! A value in quotes is covered whole, unless a number sign follows a blank behind a quote inside it. -/

namespace PlanLint

/-- Whether a text can stand between quotes: behind a backslash in double quotes any character can, and between
single quotes a quote is written twice. -/
def isQuotedBody (quote : Char) : List Char → Bool
  | [] => true
  | [c] => c != quote && (quote == '\'' || c != '\\')
  | c :: d :: rest =>
    if quote == '"' && c == '\\' then isQuotedBody quote rest
    else if quote == '\'' && c == quote then d == quote && isQuotedBody quote rest
    else c != quote && isQuotedBody quote (d :: rest)

/-- A scalar in quotes as it is written on one line. -/
structure QuotedScalar where
  quote : Char
  body : List Char
  isQuote : quote = '\'' ∨ quote = '"'
  closed : isQuotedBody quote body = true

/-- The scalar with its quotes. -/
def QuotedScalar.text (scalar : QuotedScalar) : List Char := scalar.quote :: scalar.body ++ [scalar.quote]

/-- Whether a number sign follows a blank somewhere in a text. -/
def hasSignBehindBlank : List Char → Bool
  | c :: d :: rest => (isBlank c && d == '#') || hasSignBehindBlank (d :: rest)
  | _ => false

/-- A scalar looks commented if a number sign follows a blank behind the first quote inside it. -/
def QuotedScalar.looksCommented (scalar : QuotedScalar) : Bool :=
  hasSignBehindBlank ((scalar.body.dropWhile (· != scalar.quote)).drop 1)

/-- A line that gives a key a scalar in quotes, and says nothing behind it but a comment. -/
structure QuotedEntry where
  blanks : List Char
  key : List Char
  gap : List Char
  scalar : QuotedScalar
  trailing : List Char
  comment : List Char
  indented : ∀ c ∈ blanks, isBlank c = true
  named : IsEntryName key
  apart : gap ≠ [] ∧ ∀ c ∈ gap, isBlank c = true
  silent : ∀ c ∈ trailing, isBlank c = true
  commented : comment = [] ∨ trailing ≠ [] ∧ comment.head? = some '#'

/-- The text behind the colon. -/
def QuotedEntry.after (entry : QuotedEntry) : List Char :=
  entry.gap ++ (entry.scalar.text ++ (entry.trailing ++ entry.comment))

/-- The whole line. -/
def QuotedEntry.line (entry : QuotedEntry) : Line := entry.blanks ++ (entry.key ++ ':' :: entry.after)

/-- Where no number sign follows a blank, a text is kept whole in front of a character that is none. -/
theorem beforeComment_append {previous c : Char} {text : List Char} (later : List Char)
    (none : hasSignBehindBlank (previous :: text) = false) (other : c ≠ '#') :
    beforeComment previous (text ++ c :: later) = text ++ c :: beforeComment c later := by
  -- Induction on the text, with each character in its turn as the one in front.
  induction text generalizing previous with
  | nil => simp [beforeComment, other]
  | cons d rest ih =>
    obtain ⟨goesOn, none⟩ := Bool.or_eq_false_iff.mp none
    rw [Bool.and_comm] at goesOn
    rw [List.cons_append, beforeComment, goesOn, if_neg Bool.false_ne_true, ih none]
    rfl

/-- Where one does, the text is cut. -/
theorem length_beforeComment_lt {previous : Char} {text : List Char} (later : List Char)
    (sign : hasSignBehindBlank (previous :: text) = true) :
    (beforeComment previous (text ++ later)).length < text.length := by
  -- The sign is at the first character or further on, and what is in front of it stays.
  induction text generalizing previous with
  | nil => exact absurd sign Bool.false_ne_true
  | cons d rest ih =>
    rw [List.cons_append, beforeComment]
    split
    · exact Nat.succ_pos _
    · rename_i goesOn
      rw [Bool.and_comm] at goesOn
      rcases Bool.or_eq_true_iff.mp sign with here | further
      · exact absurd here goesOn
      · exact Nat.succ_lt_succ (ih further)

/-- Blanks in front of a comment, or of nothing, are all that is kept. -/
theorem beforeComment_blanks {previous : Char} {blanks comment : List Char} (silent : ∀ c ∈ blanks, isBlank c = true)
    (commented : comment = [] ∨ (blanks ≠ [] ∨ isBlank previous = true) ∧ comment.head? = some '#') :
    beforeComment previous (blanks ++ comment) = blanks := by
  induction blanks generalizing previous with
  | nil =>
    cases comment with
    | nil => rfl
    | cons c rest =>
      -- With no blanks left, it is the previous character that makes the sign one of a comment.
      obtain ⟨blank, sign⟩ := commented.resolve_left (List.cons_ne_nil c rest)
      obtain rfl : c = '#' := by simpa using sign
      have behind : isBlank previous = true := by simpa using blank
      simp [beforeComment, behind]
  | cons d blanks ih =>
    have blank := silent d (List.mem_cons_self ..)
    have other : (d == '#') = false := by
      rw [beq_eq_false_iff_ne]
      rintro rfl
      exact absurd blank (by decide)
    rw [List.cons_append, beforeComment, other, Bool.false_and, if_neg Bool.false_ne_true]
    rw [ih (fun c member => silent c (List.mem_cons_of_mem d member))
      (commented.imp_right fun sign => ⟨.inr blank, sign.2⟩)]

/-- A quote is no comment sign. -/
theorem ne_sign_of_isQuote {quote : Char} (isQuote : quote = '\'' ∨ quote = '"') : quote ≠ '#' := by
  -- There are two quotes to compare.
  rcases isQuote with rfl | rfl <;> decide

/-- The characters of a text without a quote are other ones. -/
theorem bne_of_not_mem {quote : Char} {text : List Char} (apart : quote ∉ text) :
    ∀ c ∈ text, (c != quote) = true := by
  -- A character that is the quote would put the quote into the text.
  intro c member
  rw [bne_iff_ne]
  rintro rfl
  exact apart member

/-- A text in quotes is kept up to the second quote, and from there on up to a comment. -/
theorem uncommented_quoted {quote : Char} {inner : List Char} (behind : List Char)
    (isQuote : quote = '\'' ∨ quote = '"') (apart : quote ∉ inner) :
    uncommented (quote :: inner ++ quote :: behind) = quote :: inner ++ quote :: beforeComment quote behind := by
  -- Behind the first quote all characters are skipped up to the next quote.
  have others := bne_of_not_mem apart
  have unsigned : (quote == '#') = false := beq_eq_false_iff_ne.mpr (ne_sign_of_isQuote isQuote)
  have quoted : (quote == '\'' || quote == '"') = true := by rcases isQuote with rfl | rfl <;> decide
  rw [List.cons_append, uncommented, unsigned, quoted, List.takeWhile_append_of_pos others,
    List.dropWhile_append_of_pos others]
  simp

/-- A quote is not trimmed. -/
theorem QuotedScalar.isBlank_quote (scalar : QuotedScalar) : isBlank scalar.quote = false := by
  -- There are two quotes to look at.
  rcases scalar.isQuote with same | same
  · rw [same]
    decide
  · rw [same]
    decide

/-- In front of a text a character that is no blank makes no sign one of a comment. -/
theorem hasSignBehindBlank_cons {c : Char} (other : isBlank c = false) (text : List Char) :
    hasSignBehindBlank (c :: text) = hasSignBehindBlank text := by
  -- The test looks at a character only for the sign right behind it.
  cases text with
  | nil => rfl
  | cons d rest => rw [hasSignBehindBlank, other, Bool.false_and, Bool.false_or]

/-- The second quote of a scalar is its last one, or the first of those inside it. -/
theorem QuotedScalar.body_cases (scalar : QuotedScalar) :
    (scalar.quote ∉ scalar.body ∧ scalar.looksCommented = false) ∨
      ∃ inner behind, scalar.body = inner ++ scalar.quote :: behind ∧ scalar.quote ∉ inner ∧
        scalar.looksCommented = hasSignBehindBlank (scalar.quote :: behind) := by
  -- A quote inside the body is written with a backslash or twice, which the search does not know.
  by_cases inside : scalar.quote ∈ scalar.body
  · obtain ⟨inner, behind, split, apart⟩ := List.eq_append_cons_of_mem inside
    refine .inr ⟨inner, behind, split, apart, ?_⟩
    rw [hasSignBehindBlank_cons scalar.isBlank_quote, QuotedScalar.looksCommented, split,
      List.dropWhile_append_of_pos (bne_of_not_mem apart)]
    simp
  · refine .inl ⟨inside, ?_⟩
    have none : scalar.body.dropWhile (· != scalar.quote) = [] :=
      List.dropWhile_eq_nil_iff.mpr (bne_of_not_mem inside)
    rw [QuotedScalar.looksCommented, none]
    rfl

/-- A scalar that does not look commented is kept whole, with the blanks behind it. -/
theorem QuotedScalar.uncommented_plain {scalar : QuotedScalar} (plain : scalar.looksCommented = false)
    {blanks comment : List Char} (silent : ∀ c ∈ blanks, isBlank c = true)
    (commented : comment = [] ∨ blanks ≠ [] ∧ comment.head? = some '#') :
    uncommented (scalar.text ++ (blanks ++ comment)) = scalar.text ++ blanks := by
  have last : beforeComment scalar.quote (blanks ++ comment) = blanks :=
    beforeComment_blanks silent (commented.imp_right fun sign => ⟨.inl sign.1, sign.2⟩)
  rcases scalar.body_cases with ⟨apart, -⟩ | ⟨inner, behind, split, apart, same⟩
  · have whole : scalar.text ++ (blanks ++ comment) =
        scalar.quote :: scalar.body ++ scalar.quote :: (blanks ++ comment) := by
      simp [QuotedScalar.text]
    rw [whole, uncommented_quoted _ scalar.isQuote apart, last]
    simp [QuotedScalar.text]
  · -- The part behind the second quote is kept up to the last quote, which is no comment sign.
    have whole : scalar.text ++ (blanks ++ comment) =
        scalar.quote :: inner ++ scalar.quote :: (behind ++ scalar.quote :: (blanks ++ comment)) := by
      simp [QuotedScalar.text, split]
    rw [whole, uncommented_quoted _ scalar.isQuote apart,
      beforeComment_append _ (same ▸ plain) (ne_sign_of_isQuote scalar.isQuote), last]
    simp [QuotedScalar.text, split]

/-- A scalar that looks commented is not. -/
theorem QuotedScalar.length_uncommented_lt {scalar : QuotedScalar} (signed : scalar.looksCommented = true)
    (later : List Char) : (uncommented (scalar.text ++ later)).length < scalar.text.length := by
  rcases scalar.body_cases with ⟨-, plain⟩ | ⟨inner, behind, split, apart, same⟩
  · rw [plain] at signed
    exact absurd signed Bool.false_ne_true
  · have whole : scalar.text ++ later =
        scalar.quote :: inner ++ scalar.quote :: (behind ++ scalar.quote :: later) := by
      simp [QuotedScalar.text, split]
    -- The cut is in front of the last quote, which is lost with what stands before it.
    have cut := length_beforeComment_lt (scalar.quote :: later) (same ▸ signed)
    rw [whole, uncommented_quoted _ scalar.isQuote apart, QuotedScalar.text, split]
    simp only [List.length_append, List.length_cons, List.length_nil]
    omega

/-- Behind the colon of an entry stands the scalar. -/
theorem QuotedEntry.trimStart_after (entry : QuotedEntry) :
    trimStart entry.after = entry.scalar.text ++ (entry.trailing ++ entry.comment) := by
  -- The quote that opens the scalar stops the trimming.
  rw [QuotedEntry.after, trimStart, List.dropWhile_append_of_pos entry.apart.2, QuotedScalar.text, List.cons_append,
    List.cons_append, List.dropWhile_cons_of_neg]
  simp [entry.scalar.isBlank_quote]

/-- The value of an entry is the beginning of its scalar, and the whole of it unless that looks commented. -/
theorem QuotedEntry.inlineValue_after (entry : QuotedEntry) :
    inlineValue entry.after <+: entry.scalar.text ∧
      (inlineValue entry.after = entry.scalar.text ↔ entry.scalar.looksCommented = false) := by
  have begins := inlineValue_prefix entry.after
  rw [entry.trimStart_after] at begins
  cases looks : entry.scalar.looksCommented with
  | false =>
    -- Only the blanks behind the scalar are trimmed, since it ends with a quote.
    have trailing : ∀ c ∈ entry.trailing.reverse, isBlank c = true := by
      intro c member
      exact entry.silent c (List.mem_reverse.mp member)
    have whole : inlineValue entry.after = entry.scalar.text := by
      rw [inlineValue, entry.trimStart_after, QuotedScalar.uncommented_plain looks entry.silent entry.commented,
        trimEnd, List.reverse_append, List.dropWhile_append_of_pos trailing, QuotedScalar.text, List.reverse_append,
        List.reverse_singleton, List.singleton_append,
        List.dropWhile_cons_of_neg (by simp [entry.scalar.isBlank_quote])]
      simp
    rw [whole]
    exact ⟨List.prefix_rfl, iff_of_true rfl rfl⟩
  | true =>
    have cut := entry.scalar.length_uncommented_lt looks (entry.trailing ++ entry.comment)
    have shorter : (inlineValue entry.after).length < entry.scalar.text.length := by
      rw [inlineValue, entry.trimStart_after]
      exact Nat.lt_of_le_of_lt (List.rdropWhile_prefix _ _).length_le cut
    refine ⟨List.prefix_of_prefix_length_le begins (List.prefix_append _ _) (Nat.le_of_lt shorter), ?_⟩
    refine iff_of_false ?_ (by simp)
    intro same
    exact absurd (congrArg List.length same) (Nat.ne_of_lt shorter)

/-- On the line of an entry the key is found behind the indentation, and its value behind the colon. -/
theorem QuotedEntry.exists_matchKey (entry : QuotedEntry) (number : Nat) :
    ∃ position, matchKey entry.line entry.key number = some position ∧ position.keyStart = entry.blanks.length ∧
      position.keyEnd = entry.blanks.length + entry.key.length ∧
      position.valueText entry.line = inlineValue entry.after := by
  have text : content entry.line = entry.key ++ ':' :: entry.after := by
    rw [QuotedEntry.line, content_margin entry.indented, entry.named.isKeyText.content_eq]
  -- Only the indentation stands in front of the key.
  have column : contentColumn entry.line = entry.blanks.length := by
    have whole := contentColumn_add_content entry.line
    have width : entry.line.length = entry.blanks.length + (entry.key ++ ':' :: entry.after).length :=
      List.length_append
    rw [text] at whole
    omega
  have ends : entry.after.head?.all isBlank = true := by
    -- There is a blank between the colon and the scalar.
    obtain ⟨c, rest, split⟩ := List.exists_cons_of_ne_nil entry.apart.1
    have blank := entry.apart.2 c (by simp [split])
    simp [QuotedEntry.after, split, blank]
  refine ⟨_, matchKey_eq_some_iff.mpr ⟨entry.after, text, ends, rfl⟩, column, congrArg (· + _) column, ?_⟩
  have split : entry.line = (entry.blanks ++ entry.key ++ [':']) ++ entry.after := by
    simp [QuotedEntry.line]
  have width : contentColumn entry.line + entry.key.length + 1 = (entry.blanks ++ entry.key ++ [':']).length := by
    rw [column, List.length_append, List.length_append]
    rfl
  rw [split]
  refine valueText_eq ?_
  rw [← split, width]

/-- The key of an entry is found behind the indentation of its line, in whichever way it is looked up. Its value
is the beginning of the scalar, and covers it whole exactly if it does not look commented. -/
theorem QuotedEntry.covered_iff (entry : QuotedEntry) (lines : List Line) (number : Nat)
    (at_ : lines[number]? = some entry.line) :
    ∃ position, IsKeyAt lines entry.key position ∧ position.line = number ∧
      position.keyStart = entry.blanks.length ∧ position.keyEnd = entry.blanks.length + entry.key.length ∧
      (∀ (search : KeySearch) found, search.find lines entry.key = some found → found.line = number →
        found = position) ∧
      position.valueText entry.line <+: entry.scalar.text ∧
      (position.valueText entry.line = entry.scalar.text ↔ entry.scalar.looksCommented = false) := by
  obtain ⟨position, matched, start, stop, value⟩ := entry.exists_matchKey number
  obtain ⟨same, here⟩ := isKeyAt_of_matchKey at_ matched
  refine ⟨position, here, same, start, stop, ?_, ?_⟩
  · -- A line gives a key only once.
    intro search found located level
    exact (KeySearch.isKeyAt located).eq_of_line_eq here (level.trans same.symm)
  · rw [value]
    exact entry.inlineValue_after

/-- The scalar with two quotes inside it and number signs in front of them and outside. -/
def quotedVersion : QuotedEntry where
  blanks := []
  key := "version".toList
  gap := [' ']
  scalar := ⟨'"', "the #1 \\\"beta\\\"#2".toList, .inr rfl, by decide⟩
  trailing := [' ']
  comment := "# old".toList
  indented := by simp
  named := ⟨by decide, by decide⟩
  apart := ⟨by decide, List.forall_mem_singleton.mpr (by decide)⟩
  silent := List.forall_mem_singleton.mpr (by decide)
  commented := by decide

/-- It is covered whole. -/
theorem quotedVersion_covered :
    quotedVersion.line = "version: \"the #1 \\\"beta\\\"#2\" # old".toList ∧
      locateKey [quotedVersion.line] "version".toList = some ⟨0, 0, 7, 9, 28⟩ ∧
      KeyPosition.valueText quotedVersion.line ⟨0, 0, 7, 9, 28⟩ = "\"the #1 \\\"beta\\\"#2\"".toList := by
  have located : KeySearch.topLevel.find [quotedVersion.line] "version".toList = some ⟨0, 0, 7, 9, 28⟩ := by
    decide +kernel
  -- Where the value ends is computed, and that this covers the scalar is the general statement.
  obtain ⟨position, -, number, -, -, only, -, covered⟩ := quotedVersion.covered_iff [quotedVersion.line] 0 rfl
  obtain rfl := only .topLevel _ located rfl
  exact ⟨by decide +kernel, located, covered.mpr (by decide +kernel)⟩

/-- The same without the number signs in front, and with a blank before the other one. -/
def cutVersion : QuotedEntry where
  blanks := []
  key := "version".toList
  gap := [' ']
  scalar := ⟨'"', "the \\\"beta\\\" #2".toList, .inr rfl, by decide⟩
  trailing := []
  comment := []
  indented := by simp
  named := ⟨by decide, by decide⟩
  apart := ⟨by decide, List.forall_mem_singleton.mpr (by decide)⟩
  silent := by simp
  commented := by decide

/-- It is cut short at the number sign, although that stands between the quotes. -/
theorem cutVersion_short :
    cutVersion.line = "version: \"the \\\"beta\\\" #2\"".toList ∧
      locateKey [cutVersion.line] "version".toList = some ⟨0, 0, 7, 9, 22⟩ ∧
      KeyPosition.valueText cutVersion.line ⟨0, 0, 7, 9, 22⟩ = "\"the \\\"beta\\\"".toList ∧
      KeyPosition.valueText cutVersion.line ⟨0, 0, 7, 9, 22⟩ ≠ cutVersion.scalar.text := by
  -- Everything here is about one fixed line.
  decide +kernel

end PlanLint
