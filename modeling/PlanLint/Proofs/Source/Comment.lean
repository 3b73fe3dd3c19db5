import PlanLint.Proofs.Source.Naming

/-! The text behind the colon of a key falls into blanks, the value, blanks and a comment. -/

namespace PlanLint

/-- The first place from another on at which something holds, or the limit if it holds at none before that. -/
structure FirstFrom (holds : Nat → Prop) (start limit place : Nat) : Prop where
  above : start ≤ place
  inside : place ≤ limit
  reached : place < limit → holds place
  least : ∀ i, start ≤ i → holds i → place ≤ i

/-- A comment can start at a column: a number sign stands there, where the value starts or right behind a blank. -/
def OpensComment (text : Line) (start column : Nat) : Prop :=
  text[column]? = some '#' ∧ (column = start ∨ 0 < column ∧ (text[column - 1]?).any isBlank = true)

/-- Where the search for a comment starts: behind the quotes at the start of the value if they are closed on the
line, otherwise where the value starts. -/
inductive SearchStart (text : Line) (start : Nat) : Nat → Prop where
  | quoted {quote : Char} {close : Nat} (isQuote : quote = '\'' ∨ quote = '"') (opens : text[start]? = some quote)
      (behind : start < close) (closes : text[close]? = some quote)
      (first : ∀ i, start < i → i < close → text[i]? ≠ some quote) : SearchStart text start (close + 1)
  | bare (unclosed : ∀ quote, quote = '\'' ∨ quote = '"' → text[start]? = some quote →
      ∀ i, start < i → text[i]? ≠ some quote) : SearchStart text start start

section First

variable {holds also : Nat → Prop} {start limit place : Nat}

/-- Without any place nothing is found. -/
theorem FirstFrom.empty : FirstFrom holds 0 0 0 :=
  ⟨Nat.le_refl 0, Nat.le_refl 0, fun below => absurd below (Nat.lt_irrefl 0), fun i _ _ => Nat.zero_le i⟩

/-- What holds at once is found at once. -/
theorem FirstFrom.here (held : holds 0) : FirstFrom holds 0 limit 0 :=
  ⟨Nat.le_refl 0, Nat.zero_le limit, fun _ => held, fun i _ _ => Nat.zero_le i⟩

/-- What does not hold at once is found one place further than behind the first one. -/
theorem FirstFrom.later (fails : ¬ holds 0) (first : FirstFrom (fun i => holds (i + 1)) 0 limit place) :
    FirstFrom holds 0 (limit + 1) (place + 1) where
  above := Nat.zero_le _
  inside := Nat.succ_le_succ first.inside
  reached below := first.reached (Nat.lt_of_succ_lt_succ below)
  least i _ held := by
    -- The first place is left out, and all others are counted from the next one on.
    cases i with
    | zero => exact absurd held fails
    | succ i => exact Nat.succ_le_succ (first.least i (Nat.zero_le i) held)

/-- What holds first behind a front holds first in the whole, as many places further on. -/
theorem FirstFrom.shift (width : Nat) (first : FirstFrom (fun i => holds (width + i)) start limit place) :
    FirstFrom holds (width + start) (width + limit) (width + place) where
  above := Nat.add_le_add_left first.above width
  inside := Nat.add_le_add_left first.inside width
  reached below := first.reached (Nat.lt_of_add_lt_add_left below)
  least i above held := by
    -- A place behind the start is behind the front as well.
    obtain ⟨j, rfl⟩ := Nat.exists_eq_add_of_le (Nat.le_of_add_right_le above)
    exact Nat.add_le_add_left (first.least j (Nat.le_of_add_le_add_left above) held) width

/-- Only what holds from the start on matters. -/
theorem FirstFrom.congr (first : FirstFrom holds start limit place) (same : ∀ i, start ≤ i → (holds i ↔ also i)) :
    FirstFrom also start limit place where
  above := first.above
  inside := first.inside
  reached below := (same place first.above).mp (first.reached below)
  least i above held := first.least i above ((same i above).mpr held)

/-- Nothing holds from the start on exactly if the limit is reached, provided that nothing holds beyond it. -/
theorem FirstFrom.eq_limit_iff (first : FirstFrom holds start limit place) (below : ∀ i, holds i → i < limit) :
    place = limit ↔ ∀ i, start ≤ i → ¬ holds i := by
  -- A place before the limit is one at which the property holds.
  constructor
  · rintro rfl i above held
    exact absurd (first.least i above held) (Nat.not_le_of_lt (below i held))
  · intro none
    by_contra other
    exact none place first.above (first.reached (Nat.lt_of_le_of_ne first.inside other))

end First

/-- A run of characters ends at the first character that is not one of them. -/
theorem firstFrom_takeWhile (among : Char → Bool) (text : List Char) :
    FirstFrom (fun i => (text[i]?).any (!among ·) = true) 0 text.length (text.takeWhile among).length := by
  -- Induction on the text: a character of the run moves the place by one, any other one is the place.
  induction text with
  | nil => exact .empty
  | cons c rest ih =>
    cases one : among c with
    | true =>
      rw [List.takeWhile_cons_of_pos one]
      exact FirstFrom.later (by simp [one]) ih
    | false =>
      rw [List.takeWhile_cons_of_neg (by simp [one])]
      exact FirstFrom.here (by simp [one])

/-- Behind the start of a value a comment is found only where a number sign follows a blank. -/
theorem opensComment_succ {text : Line} {start before : Nat} (behind : start ≤ before) :
    OpensComment text start (before + 1) ↔ text[before + 1]? = some '#' ∧ (text[before]?).any isBlank = true := by
  -- Behind the start a comment needs a blank in front of its sign.
  have other : before + 1 ≠ start := by omega
  simp [OpensComment, other]

/-- Behind a front there are the same characters, as many places further on. -/
theorem getElem?_front (front text : List Char) (place : Nat) :
    (front ++ text)[front.length + place]? = text[place]? := by
  -- The front takes up as many places as it has characters.
  rw [List.getElem?_append_right (Nat.le_add_right _ _), Nat.add_sub_cancel_left]

/-- A comment is found behind a front where it is found without the front. -/
theorem opensComment_front (front text : List Char) (place : Nat) :
    OpensComment (front ++ text) front.length (front.length + place) ↔ OpensComment text 0 place := by
  have sign := getElem?_front front text place
  cases place with
  | zero =>
    -- At the start of the text a sign counts, whether or not the front ends with a blank.
    rw [Nat.add_zero] at sign ⊢
    simp only [OpensComment, sign, true_or]
  | succ place =>
    have before := getElem?_front front text place
    rw [← Nat.add_assoc] at sign ⊢
    rw [opensComment_succ (Nat.zero_le place), opensComment_succ (Nat.le_add_right _ _), sign, before]

/-- Behind its first character the comments of a text are also those of a longer one that starts further up. -/
theorem opensComment_behind {front text : List Char} {place : Nat} :
    OpensComment (front ++ text) 0 (front.length + (place + 1)) ↔ OpensComment text 0 (place + 1) := by
  -- Whether a comment opens depends on the sign and on the character in front of it.
  refine Iff.trans ?_ (opensComment_front front text (place + 1))
  rw [← Nat.add_assoc, opensComment_succ (Nat.zero_le _), opensComment_succ (Nat.le_add_right _ _)]

/-- The text that is kept up to a comment ends at the first number sign behind a blank. -/
theorem firstFrom_beforeComment (previous : Char) (text : List Char) :
    FirstFrom (fun i => OpensComment (previous :: text) 0 (i + 1)) 0 text.length
      (beforeComment previous text).length := by
  -- Induction on the text, with each character in its turn as the one in front.
  induction text generalizing previous with
  | nil => exact .empty
  | cons c rest ih =>
    rw [beforeComment]
    split
    · rename_i opens
      obtain ⟨sign, blank⟩ := Bool.and_eq_true_iff.mp opens
      exact FirstFrom.here ((opensComment_succ (Nat.le_refl 0)).mpr ⟨by simpa using sign, by simpa using blank⟩)
    · -- This character is no comment sign, and for the others it stands in front instead of the previous one.
      rename_i goesOn
      refine FirstFrom.later ?_ ((ih c).congr fun i _ => by simp [opensComment_succ])
      intro opens
      simp_all [opensComment_succ]

/-- A value in quotes is searched for a comment from behind the second quote on. -/
theorem searchStart_quoted {quote : Char} {inner behind : List Char} (isQuote : quote = '\'' ∨ quote = '"')
    (apart : quote ∉ inner) : SearchStart (quote :: inner ++ quote :: behind) 0 (inner.length + 1 + 1) := by
  refine .quoted isQuote rfl (Nat.succ_pos _) (getElem?_front (quote :: inner) (quote :: behind) 0) ?_
  intro i above before closes
  obtain ⟨j, rfl⟩ := Nat.exists_eq_succ_of_ne_zero (Nat.pos_iff_ne_zero.mp above)
  -- Up to the second quote stand the characters between the two.
  have within : j < inner.length := by omega
  rw [List.cons_append, Nat.succ_eq_add_one, List.getElem?_cons_succ, List.getElem?_append_left within] at closes
  exact apart (List.mem_of_getElem? closes)

/-- Any other value is searched from its start. -/
theorem searchStart_bare {c : Char} {rest : List Char}
    (unquoted : ((c == '\'' || c == '"') && rest.contains c) = false) : SearchStart (c :: rest) 0 0 := by
  refine .bare ?_
  intro quote isQuote opens i above closes
  -- A quote that opens the value is not closed behind it, or the search would start there.
  obtain rfl : c = quote := by simpa using opens
  obtain ⟨j, rfl⟩ := Nat.exists_eq_succ_of_ne_zero (Nat.pos_iff_ne_zero.mp above)
  have there : c ∈ rest := List.mem_of_getElem? closes
  rcases isQuote with rfl | rfl
  · simp [there] at unquoted
  · simp [there] at unquoted

/-- A value in quotes is kept up to the first comment behind the second quote. -/
theorem firstFrom_quoted (quote : Char) (inner behind : List Char) :
    FirstFrom (OpensComment (quote :: inner ++ quote :: behind) 0) (inner.length + 1 + 1)
      (quote :: inner ++ quote :: behind).length (quote :: inner ++ quote :: beforeComment quote behind).length := by
  -- The second quote stands in front of the text that is searched, as it does behind the first one.
  have same : ∀ i, 0 ≤ i → (OpensComment (quote :: behind) 0 (i + 1) ↔
      OpensComment (quote :: inner ++ quote :: behind) 0 (inner.length + 1 + 1 + i)) := by
    intro i _
    rw [Nat.add_assoc (inner.length + 1), Nat.add_comm 1 i]
    exact opensComment_behind.symm
  have first := ((firstFrom_beforeComment quote behind).congr same).shift
  have width : ∀ rest : List Char,
      (quote :: inner ++ quote :: rest).length = inner.length + 1 + 1 + rest.length := by
    intro rest
    rw [List.length_append, List.length_cons, List.length_cons]
    omega
  rw [width, width]
  exact first

/-- The text of a value is kept up to the first place, behind its quotes, where a comment can start. -/
theorem exists_firstFrom_uncommented (text : List Char) :
    ∃ search, SearchStart text 0 search ∧
      FirstFrom (OpensComment text 0) search text.length (uncommented text).length := by
  cases text with
  | nil => exact ⟨0, .bare (by simp), .empty⟩
  | cons c rest =>
    rw [uncommented]
    split
    · -- The comment stands in place of a value.
      rename_i sign
      obtain rfl : c = '#' := by simpa using sign
      exact ⟨0, searchStart_bare (by simp), .here ⟨rfl, .inl rfl⟩⟩
    · rename_i unsigned
      split
      · -- The quotes are closed, and behind the second one the search is that for any text.
        rename_i quoted
        obtain ⟨isQuote, there⟩ := Bool.and_eq_true_iff.mp quoted
        have whole := takeWhile_append_cons_drop (List.contains_iff_mem.mp there)
        generalize inner_eq : rest.takeWhile (· != c) = inner at whole ⊢
        generalize (rest.dropWhile (· != c)).drop 1 = behind at whole ⊢
        have apart : c ∉ inner := by
          intro member
          have other := List.mem_takeWhile_imp (inner_eq ▸ member)
          simp at other
        subst whole
        exact ⟨_, searchStart_quoted (by simpa using isQuote) apart, firstFrom_quoted c inner behind⟩
      · rename_i unquoted
        refine ⟨0, searchStart_bare (by simpa using unquoted), .later ?_ (firstFrom_beforeComment c rest)⟩
        simp_all [OpensComment]

/-- The text between the columns of a value. -/
def KeyPosition.valueText (line : Line) (position : KeyPosition) : List Char :=
  (line.take position.valueEnd).drop position.valueStart

/-- How the text behind the colon of a key is split: blanks, a value without blanks at its ends, blanks, and a
comment. -/
structure KeyPosition.Splits (text : Line) (position : KeyPosition) (start search : Nat)
    (lead value gap comment : List Char) : Prop where
  whole : text.drop (position.keyEnd + 1) = lead ++ value ++ gap ++ comment
  leadBlank : ∀ c ∈ lead, isBlank c = true
  gapBlank : ∀ c ∈ gap, isBlank c = true
  sign : comment = [] ∨ comment.head? = some '#'
  between : position.valueText text = value
  trimmed : value.head?.any isBlank = false ∧ value.getLast?.any isBlank = false
  /-- Without a value both of its columns are right behind the colon. -/
  absent : value = [] → position.valueStart = position.keyEnd + 1 ∧ position.valueEnd = position.keyEnd + 1
  present : value ≠ [] → position.valueStart = start
  /-- The value starts at the first column behind the colon that holds no blank. -/
  starts : FirstFrom (fun column => (text[column]?).any (!isBlank ·) = true) (position.keyEnd + 1) text.length start
  searches : SearchStart text start search
  /-- The comment starts at the first column from the search on where it can. -/
  opens : FirstFrom (OpensComment text start) search text.length (text.length - comment.length)
  bare : comment = [] ↔ ∀ column, search ≤ column → ¬ OpensComment text start column

/-- The columns of a value are those of its text, if there is any. -/
theorem valueColumns_eq (column : Nat) (after : List Char) :
    valueColumns column after =
      if inlineValue after = [] then (column, column)
      else (column + (after.takeWhile isBlank).length,
        column + (after.takeWhile isBlank).length + (inlineValue after).length) := by
  -- An empty value has no columns of its own.
  unfold valueColumns
  split
  · rename_i empty
    rw [if_pos empty]
  · rename_i present
    rw [if_neg present]

/-- A text is blanks, its value, blanks, and a comment, which starts at the first place where it can. -/
theorem exists_comment (after : List Char) :
    ∃ gap comment search, after = after.takeWhile isBlank ++ (inlineValue after ++ gap ++ comment) ∧
      (∀ c ∈ gap, isBlank c = true) ∧ SearchStart (inlineValue after ++ gap ++ comment) 0 search ∧
      FirstFrom (OpensComment (inlineValue after ++ gap ++ comment) 0) search
        (inlineValue after ++ gap ++ comment).length (inlineValue after ++ gap).length := by
  obtain ⟨comment, cut⟩ := uncommented_prefix (trimStart after)
  obtain ⟨search, searches, first⟩ := exists_firstFrom_uncommented (trimStart after)
  -- The value is what is kept up to the comment, without the blanks at its end.
  have kept :
      inlineValue after ++ (uncommented (trimStart after)).rtakeWhile isBlank = uncommented (trimStart after) :=
    List.rdropWhile_append_rtakeWhile
  refine ⟨(uncommented (trimStart after)).rtakeWhile isBlank, comment, search, ?_⟩
  rw [kept, cut]
  exact ⟨List.takeWhile_append_dropWhile.symm, fun c member => List.mem_rtakeWhile_imp member, searches, first⟩

/-- A value has no blank at either end. -/
theorem inlineValue_trimmed (after : List Char) :
    (inlineValue after).head?.any isBlank = false ∧ (inlineValue after).getLast?.any isBlank = false := by
  cases first : inlineValue after with
  | nil => exact ⟨rfl, rfl⟩
  | cons c rest =>
    constructor
    · -- It starts with the first character behind the blanks.
      obtain ⟨later, whole⟩ := inlineValue_prefix after
      have starts := List.head?_dropWhile_not isBlank after
      rw [first] at whole
      rw [show after.dropWhile isBlank = c :: rest ++ later from whole.symm] at starts
      exact starts
    · -- It ends with what is left when blanks are taken away.
      have present : inlineValue after ≠ [] := by
        rw [first]
        exact List.cons_ne_nil c rest
      have ends := List.rdropWhile_last_not isBlank (uncommented (trimStart after)) present
      rw [← first, List.getLast?_eq_some_getLast present, Option.any_some]
      exact Bool.not_eq_true _ ▸ ends

/-- A search for a comment behind a front starts as far behind it as in the text without the front. -/
theorem SearchStart.front {text : List Char} {search : Nat} (searches : SearchStart text 0 search)
    (front : List Char) :
    SearchStart (front ++ text) front.length (front.length + search) := by
  have moved := getElem?_front front text
  -- Each place behind the front is some place of the text, moved.
  cases searches with
  | quoted isQuote opens behind closes first =>
    rw [← Nat.add_assoc]
    refine .quoted isQuote ((moved 0).trans opens) (Nat.lt_add_of_pos_right behind) ((moved _).trans closes) ?_
    intro i above before
    obtain ⟨j, rfl⟩ := Nat.exists_eq_add_of_le (Nat.le_of_lt above)
    rw [moved]
    exact first j (by omega) (by omega)
  | bare unclosed =>
    refine .bare ?_
    intro quote isQuote opens i above
    obtain ⟨j, rfl⟩ := Nat.exists_eq_add_of_le (Nat.le_of_lt above)
    rw [moved]
    exact unclosed quote isQuote ((moved 0).symm.trans opens) j (by omega)

/-- A comment that can start at a column stands on the line. -/
theorem OpensComment.lt_length {line : Line} {start column : Nat} (opens : OpensComment line start column) :
    column < line.length :=
  (List.getElem?_eq_some_iff.mp opens.1).1

/-- What is cut from a value behind its first comment starts with the sign of it. -/
theorem head?_of_firstFrom {kept comment : List Char} {search : Nat}
    (first : FirstFrom (OpensComment (kept ++ comment) 0) search (kept ++ comment).length kept.length) :
    comment = [] ∨ comment.head? = some '#' := by
  -- What is cut off is empty, or starts where the comment opens.
  cases comment with
  | nil => exact .inl rfl
  | cons c rest =>
    have opens := first.reached (by simp)
    exact .inr ((getElem?_front kept (c :: rest) 0).symm.trans opens.1)

/-- Between the columns of a value stands the value. -/
theorem valueText_eq {front after : List Char} {position : KeyPosition}
    (columns : (position.valueStart, position.valueEnd) = valueColumns front.length after) :
    position.valueText (front ++ after) = inlineValue after := by
  unfold KeyPosition.valueText
  rw [valueColumns_eq] at columns
  split at columns
  · -- Both columns are the same, and there is no value.
    rename_i empty
    obtain ⟨valueStart, valueEnd⟩ := Prod.mk.inj columns
    rw [valueStart, valueEnd, List.drop_take, Nat.sub_self, List.take_zero, empty]
  · obtain ⟨valueStart, valueEnd⟩ := Prod.mk.inj columns
    obtain ⟨later, whole⟩ := inlineValue_prefix after
    have parts : front ++ after = (front ++ after.takeWhile isBlank) ++ (inlineValue after ++ later) := by
      rw [whole, List.append_assoc, trimStart, List.takeWhile_append_dropWhile]
    rw [valueStart, valueEnd, ← List.length_append, parts]
    exact drop_take_key _ _ later

/-- Behind a front a run of characters ends as many places further on. -/
theorem firstFrom_takeWhile_front (among : Char → Bool) (front text : List Char) :
    FirstFrom (fun i => ((front ++ text)[i]?).any (!among ·) = true) front.length (front ++ text).length
      (front.length + (text.takeWhile among).length) := by
  -- The run of the text is shifted by the length of the front.
  rw [List.length_append]
  refine FirstFrom.shift front.length ((firstFrom_takeWhile among text).congr fun i _ => ?_)
  rw [getElem?_front]

/-- So does the text up to a comment. -/
theorem firstFrom_opensComment_front (front : List Char) {text : List Char} {search place : Nat}
    (first : FirstFrom (OpensComment text 0) search text.length place) :
    FirstFrom (OpensComment (front ++ text) front.length) (front.length + search) (front ++ text).length
      (front.length + place) := by
  -- The search in the text is shifted by the length of the front.
  rw [List.length_append]
  exact FirstFrom.shift front.length (first.congr fun i _ => (opensComment_front front text i).symm)

/-- The text behind a front is split where its value is, if the columns of a position are those of the value. -/
theorem exists_splits {front after : List Char} {position : KeyPosition}
    (behind : position.keyEnd + 1 = front.length)
    (columns : (position.valueStart, position.valueEnd) = valueColumns front.length after) :
    ∃ start search lead value gap comment,
      position.Splits (front ++ after) start search lead value gap comment := by
  obtain ⟨gap, comment, search, parts, gapBlank, searches, first⟩ := exists_comment after
  have trimmed := inlineValue_trimmed after
  have between := valueText_eq columns
  have starts := firstFrom_takeWhile_front isBlank front after
  have leadBlank : ∀ c ∈ after.takeWhile isBlank, isBlank c = true := fun c member => List.mem_takeWhile_imp member
  rw [valueColumns_eq] at columns
  generalize after.takeWhile isBlank = lead at *
  generalize inlineValue after = value at *
  subst parts
  -- The line is the front, the blanks, the value, the blanks behind it and the comment.
  rw [← List.append_assoc front lead] at starts between ⊢
  rw [← List.length_append, ← behind] at starts
  have opens := firstFrom_opensComment_front (front ++ lead) first
  have column : (front ++ lead ++ (value ++ gap ++ comment)).length - comment.length =
      (front ++ lead).length + (value ++ gap).length := by
    simp only [List.length_append]
    omega
  rw [← column] at opens
  refine ⟨(front ++ lead).length, (front ++ lead).length + search, lead, value, gap, comment, ?_⟩
  exact {
    whole := by
      rw [behind, List.append_assoc front, List.drop_left]
      simp only [List.append_assoc]
    leadBlank := leadBlank
    gapBlank := gapBlank
    sign := head?_of_firstFrom first
    between := between
    trimmed := trimmed
    absent := by
      intro empty
      rw [if_pos empty, Prod.mk.injEq, ← behind] at columns
      exact columns
    present := by
      intro present
      rw [if_neg present, Prod.mk.injEq] at columns
      rw [columns.1, List.length_append]
    starts := starts
    searches := searches.front _
    opens := opens
    bare := by
      rw [← opens.eq_limit_iff fun i held => held.lt_length, ← List.length_eq_zero_iff, column]
      simp only [List.length_append]
      omega }

/-- Whichever way a key is looked up, the text behind its colon on the line where it is found is split into
blanks, the value, blanks and a comment; the comment starts at the first column where it can. -/
theorem KeySearch.find_splits (search : KeySearch) (lines : List Line) (key : List Char) (position : KeyPosition)
    (found : search.find lines key = some position) :
    ∃ line, lines[position.line]? = some line ∧
      ∃ start behind lead value gap comment, position.Splits line start behind lead value gap comment := by
  obtain ⟨line, at_, matched⟩ := KeySearch.isKeyAt found
  obtain ⟨after, text, -, same⟩ := matchKey_eq_some_iff.mp matched
  obtain ⟨lead, -, whole, column⟩ := exists_lead line
  -- Up to the colon the line is the lead and the key.
  have split : line = (lead ++ key ++ [':']) ++ after := by
    rw [whole, text]
    simp
  have width : (lead ++ key ++ [':']).length = contentColumn line + key.length + 1 := by
    rw [List.length_append, List.length_append, column, List.length_singleton]
  have behind : position.keyEnd + 1 = (lead ++ key ++ [':']).length := by rw [same, width]
  -- The columns of the value are counted from there.
  have columns : (position.valueStart, position.valueEnd) = valueColumns (lead ++ key ++ [':']).length after := by
    rw [same, width]
  refine ⟨line, at_, ?_⟩
  rw [split]
  exact exists_splits behind columns

/-- Lines with a comment behind a value that has number signs inside and outside its quotes. -/
def commentedLines : List Line :=
  ["project:  # none yet", "registries:", "  - host:  \"a # b\"#c  # d"].map String.toList

/-- The value reaches to the blanks in front of the comment. -/
theorem commentedLines_split :
    locateKeyUnder commentedLines "host".toList "registries".toList = some ⟨2, 4, 8, 11, 20⟩ ∧
      ∃ start behind lead gap comment, KeyPosition.Splits "  - host:  \"a # b\"#c  # d".toList ⟨2, 4, 8, 11, 20⟩
        start behind lead "\"a # b\"#c".toList gap comment := by
  -- Where the key is found is computed, how its line is split is the general statement.
  have found : (KeySearch.under "registries".toList).find commentedLines "host".toList = some ⟨2, 4, 8, 11, 20⟩ := by
    decide +kernel
  obtain ⟨line, at_, start, behind, lead, value, gap, comment, splits⟩ := KeySearch.find_splits _ _ _ _ found
  obtain rfl : "  - host:  \"a # b\"#c  # d".toList = line := Option.some.inj at_
  have between := splits.between
  obtain rfl : "\"a # b\"#c".toList = value := between
  exact ⟨found, start, behind, lead, gap, comment, splits⟩

end PlanLint
