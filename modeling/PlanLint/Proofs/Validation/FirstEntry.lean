import PlanLint.Proofs.Source.KeyLine
import PlanLint.Proofs.Validation.EntryLine

/-! Where repeated keys are allowed, the first entry with a key counts, in the document and among the lines. -/

namespace PlanLint

/-- An entry whose key no entry before it has. -/
def IsFirstEntry (entries : List EntryLine) (number : Nat) (e : EntryLine) : Prop :=
  entries[number]? = some e ∧ ∀ earlier < number, ∀ other, entries[earlier]? = some other → other.key ≠ e.key

/-- An entry that is written plainly and whose key and value are read as texts. -/
structure EntryLine.IsText (e : EntryLine) : Prop where
  plain : e.style = .plain
  letters : ∀ c ∈ e.value, c.isAlpha = true
  key : Tag.ofPlain false e.key = .core .str
  value : Tag.ofPlain false e.value = .core .str

/-- The text that the value of an entry is. -/
def EntryLine.text (e : EntryLine) : Value := .text (String.ofList e.value)

variable {value : EntryLine → Value} {entries : List EntryLine} {key : List Char} {e : EntryLine} {ended : Bool}

/-- Such an entry is read as its texts. -/
theorem EntryLine.IsText.readsAs (isText : e.IsText) : e.ReadsAs e.text where
  key := isText.key
  value := by
    intro start
    -- Read by the rules for plain scalars the value is a text, as it is in quotes.
    have tag : Parser.scalarTag e.style.scalar e.value = .core .str := by
      rw [isText.plain]
      exact isText.value
    rw [tag]
    rfl

/-- Under a key the document has the value of the first entry with it. -/
theorem valueAtKey?_document (value : EntryLine → Value) (entries : List EntryLine) (e : EntryLine) :
    valueAtKey? (entries.foldl (keepFirst value) []) e.name = (entries.find? (·.key == e.key)).map value := by
  -- Induction from the last entry, which is only added if its key is new.
  induction entries using List.reverseRecOn generalizing e with
  | nil => rfl
  | append_singleton entries last ih =>
    rw [List.foldl_append, List.foldl_cons, List.foldl_nil, List.find?_append, keepFirst, ih last]
    cases before : entries.find? (·.key == last.key) with
    | none =>
      rw [if_neg (by simp), valueAtKey?_append, ih e, Option.map_or]
      by_cases same : last.key = e.key
      · simp [same]
      · simp [same]
    | some first =>
      rw [if_pos (by simp), ih e]
      by_cases same : last.key = e.key
      · rw [← same, before]
        rfl
      · simp [same]

/-- A key is in the document if an entry has it. -/
theorem isSome_valueAtKey?_document (value : EntryLine → Value) (entries : List EntryLine) (e : EntryLine) :
    (valueAtKey? (entries.foldl (keepFirst value) []) e.name).isSome = true ↔ e.key ∈ entries.map (·.key) := by
  -- The document looks up what the list of entries finds.
  rw [valueAtKey?_document, Option.isSome_map, List.find?_isSome, List.mem_map]
  simp

/-- The keys of the document are those that are written, in the order in which they first come. -/
theorem keys_document (value : EntryLine → Value) (entries : List EntryLine) :
    (entries.foldl (keepFirst value) []).map (·.1) =
      (entries.map (·.key)).eraseDups.map fun key => .text (String.ofList key) := by
  -- As above, from the last entry: a known key is not added and adds nothing to the keys either.
  induction entries using List.reverseRecOn with
  | nil => rfl
  | append_singleton entries last ih =>
    have there := isSome_valueAtKey?_document value entries last
    rw [List.foldl_append, List.foldl_cons, List.foldl_nil, List.map_append, List.eraseDups_append, keepFirst]
    by_cases known : last.key ∈ entries.map (·.key)
    · rw [if_pos (there.mpr known), ih]
      have nothing : ([last].map (·.key)).removeAll (entries.map (·.key)) = [] := by
        simpa [List.removeAll] using known
      rw [nothing]
      simp
    · rw [if_neg (fun found => known (there.mp found)), List.map_append, ih]
      have new : ([last].map (·.key)).removeAll (entries.map (·.key)) = [last.key] := by
        simpa [List.removeAll] using known
      rw [new]
      simp [EntryLine.name, List.eraseDups_cons]

/-- The first entry with a key is the one that a search finds. -/
theorem IsFirstEntry.find?_eq {number : Nat} (first : IsFirstEntry entries number e) :
    entries.find? (·.key == e.key) = some e := by
  obtain ⟨here, before⟩ := first
  obtain ⟨inside, at_⟩ := List.getElem?_eq_some_iff.mp here
  -- The search stops at the entry because those before it have other keys.
  rw [List.find?_eq_some_iff_getElem]
  refine ⟨by simp, number, inside, at_, ?_⟩
  intro earlier below
  have other := before earlier below _ (List.getElem?_eq_getElem (Nat.lt_trans below inside))
  simpa using other

/-- The lines of a text of entries; a newline at its end makes one more line, which is empty. -/
theorem splitLines_entryText (ended : Bool) (some_entry : entries ≠ []) :
    splitLines (entryText ended entries) = entries.map EntryLine.line ++ (if ended then [[]] else []) := by
  -- Induction on the entries: the newline in front of each next one ends the line before it.
  induction entries with
  | nil => exact absurd rfl some_entry
  | cons e more ih =>
    obtain ⟨noNewline, noReturn⟩ := e.single_line
    rw [entryText]
    cases more with
    | nil =>
      cases ended with
      | false => rw [textBehind, if_neg (by simp), List.append_nil, splitLines_single noNewline noReturn]; rfl
      | true => rw [textBehind, if_pos rfl, splitLines_cons noNewline noReturn]; rfl
    | cons next more =>
      rw [textBehind, splitLines_cons noNewline noReturn]
      exact congrArg (e.line :: ·) (ih (by simp))

/-- The line of an entry starts with its key. -/
theorem EntryLine.line_spoken (e : EntryLine) : isSilent e.line = false ∧ indent e.line = 0 := by
  -- The key has a first character, which is neither blank nor the sign of a comment.
  obtain ⟨first, tail, split⟩ := List.exists_cons_of_ne_nil e.named
  have simple := e.isKeyWord.all first (by simp [split])
  have spoken : isBlank first = false ∧ first ≠ '#' :=
    of_isSimpleCharacter (P := fun c => isBlank c = false ∧ c ≠ '#') (by decide +kernel) simple
  simp [EntryLine.line, split, isSilent, trimStart, indent, spoken]

/-- Such a key can be looked for. -/
theorem EntryLine.isKeyText (e : EntryLine) : IsKeyText e.key := by
  obtain ⟨first, tail, split⟩ := List.exists_cons_of_ne_nil e.named
  have simple := e.isKeyWord.all first (by simp [split])
  have spoken : isBlank first = false ∧ first ≠ '#' ∧ first ≠ '-' :=
    of_isSimpleCharacter (P := fun c => isBlank c = false ∧ c ≠ '#' ∧ c ≠ '-') (by decide +kernel) simple
  -- A key that starts with a list marker would start with a dash.
  refine ⟨by simp [split, spoken], ?_⟩
  rintro ⟨rest, marked⟩
  have dash : first = '-' := by simpa [split] using (congrArg List.head? marked).symm
  exact spoken.2.2 dash

/-- What stands in front of the first colon is read off a text. -/
theorem takeWhile_colon (e : EntryLine) (after : List Char) :
    (e.key ++ ':' :: after).takeWhile (· != ':') = e.key := by
  -- No character of a key is a colon.
  have noColon : ∀ c ∈ e.key, (c != ':') = true := by
    intro c inside
    exact of_isSimpleCharacter (P := fun c => (c != ':') = true) (by decide +kernel) (e.isKeyWord.all c inside)
  rw [List.takeWhile_append_of_pos noColon, List.takeWhile_cons_of_neg (by simp), List.append_nil]

/-- The line of an entry gives its own key and no other one. -/
theorem EntryLine.isKeyLine_iff (e other : EntryLine) : IsKeyLine 0 e.key other.line ↔ other.key = e.key := by
  constructor
  · rintro ⟨blanks, after, split, none, -, -⟩
    obtain rfl : blanks = [] := List.length_eq_zero_iff.mp none
    -- Both keys are what stands in front of the first colon of the line.
    have same := congrArg (·.takeWhile (· != ':')) split
    simpa only [EntryLine.line, List.nil_append, takeWhile_colon] using same
  · intro same
    refine ⟨[], ' ' :: other.style.spell other.value, ?_, rfl, by simp, rfl⟩
    rw [EntryLine.line, same, List.nil_append]

/-- The top level of a text of entries is at its margin. -/
theorem topIndent_entryText (ended : Bool) (some_entry : entries ≠ []) :
    topIndent (splitLines (entryText ended entries)) = 0 := by
  obtain ⟨e, more, rfl⟩ := List.exists_cons_of_ne_nil some_entry
  -- The first line already has no indentation, and no line can have less.
  have member : e.line ∈ splitLines (entryText ended (e :: more)) := by
    rw [splitLines_entryText ended some_entry]
    simp
  obtain ⟨spoken, level⟩ := e.line_spoken
  have least := topIndent_le member spoken
  omega

/-- The lines of entries give a key where an entry has it. -/
theorem givesTopKey_entryText_iff (ended : Bool) (some_entry : entries ≠ []) (e : EntryLine) (number : Nat) :
    GivesTopKey (splitLines (entryText ended entries)) e.key number ↔
      ∃ other, entries[number]? = some other ∧ other.key = e.key := by
  rw [GivesTopKey, topIndent_entryText ended some_entry, splitLines_entryText ended some_entry]
  constructor
  · rintro ⟨line, at_, gives⟩
    by_cases inside : number < entries.length
    · rw [List.getElem?_append_left (by simpa using inside), List.getElem?_map,
        List.getElem?_eq_getElem inside, Option.map_some, Option.some.injEq] at at_
      subst at_
      exact ⟨entries[number], List.getElem?_eq_getElem inside, (e.isKeyLine_iff _).mp gives⟩
    · -- Behind the entries there is at most an empty line, which gives no key.
      rw [List.getElem?_append_right (by simpa using Nat.le_of_not_lt inside)] at at_
      have empty : line = [] := by
        have member := List.mem_of_getElem? at_
        cases ended <;> simp at member
        exact member
      obtain ⟨blanks, after, split, -⟩ := gives
      simp [empty] at split
  · rintro ⟨other, at_, same⟩
    refine ⟨other.line, ?_, (e.isKeyLine_iff other).mpr same⟩
    have inside := (List.getElem?_eq_some_iff.mp at_).1
    rw [List.getElem?_append_left (by simpa using inside), List.getElem?_map, at_]
    rfl

/-- The first entry with a key is the first line that gives it. -/
theorem IsFirstEntry.locateKey {number : Nat} (first : IsFirstEntry entries number e) (ended : Bool) :
    ∃ position, locateKey (splitLines (entryText ended entries)) e.key = some position ∧ position.line = number := by
  obtain ⟨here, before⟩ := first
  have some_entry : entries ≠ [] := List.ne_nil_of_mem (List.mem_of_getElem? here)
  have gives := givesTopKey_entryText_iff ended some_entry e
  refine (exists_locateKey_iff e.isKeyText number).mpr ⟨(gives number).mpr ⟨e, here, rfl⟩, fun earlier also => ?_⟩
  obtain ⟨other, there, same⟩ := (gives earlier).mp also
  -- An earlier line with the key would be an earlier entry with it.
  by_contra below
  exact before earlier (Nat.lt_of_not_le below) other there same

/-- A text of entries is parsed without a diagnostic where repeated keys are allowed. Its document has the keys in
the order in which they first come, each with the value of its first entry, and the line of that entry is also the
one that is found for the key. -/
theorem firstEntries_count (ended : Bool) (entries : List EntryLine) (some_entry : entries ≠ [])
    (texts : ∀ e ∈ entries, e.IsText) :
    ∃ document,
      parseDocument (entryText ended entries) (splitLines (entryText ended entries)) true =
        .ok ⟨some document, []⟩ ∧
      document.map (·.1) = (entries.map (·.key)).eraseDups.map (fun key => .text (String.ofList key)) ∧
      ∀ number e, IsFirstEntry entries number e →
        valueAtKey? document e.name = some e.text ∧
          ∃ position, locateKey (splitLines (entryText ended entries)) e.key = some position ∧
            position.line = number := by
  -- The document is the one in which each key keeps the entry that came first.
  refine ⟨entries.foldl (keepFirst EntryLine.text) [], ?_, keys_document _ _, fun number e first => ⟨?_, ?_⟩⟩
  · -- All repeated keys are allowed, so none of them is a problem.
    exact parseDocument_entryText ended some_entry (fun e member => (texts e member).readsAs) (.inl rfl) _
  · -- The value in the document is that of the first entry with the key, and so is the line in the text.
    rw [valueAtKey?_document, first.find?_eq]
    rfl
  · exact first.locateKey ended

/-- An entry with a key of one letter and a value of one letter. -/
def letterEntry (key value : Char) (letters : key.isAlpha = true ∧ value.isAlpha = true) : EntryLine where
  key := [key]
  style := .plain
  value := [value]
  letters := by simp [letters]
  named := by simp
  short := by simp
  isWord := ⟨by simp, by simp [isSimpleCharacter, Char.isAlphanum, letters]⟩

/-- Two entries with one key. -/
def twoEntries : List EntryLine :=
  [letterEntry 'a' 'b' (by decide), letterEntry 'a' 'c' (by decide)]

/-- They are read as their texts. -/
theorem isText_twoEntries : ∀ e ∈ twoEntries, e.IsText := by
  -- Both entries are a letter with a letter behind it.
  intro e member
  simp only [twoEntries, List.mem_cons, List.not_mem_nil, or_false] at member
  rcases member with rfl | rfl <;> exact ⟨rfl, by simp [letterEntry], by decide, by decide⟩

/-- They are written so. -/
theorem entryText_twoEntries : entryText true twoEntries = "a: b\na: c\n".toList := by decide

/-- The first of the two counts, and its line is found. -/
theorem twoEntries_count :
    twoEntries ≠ [] ∧ (∀ e ∈ twoEntries, e.IsText) ∧
      IsFirstEntry twoEntries 0 (letterEntry 'a' 'b' (by decide)) ∧
      ∃ document,
        parseDocument "a: b\na: c\n".toList (splitLines "a: b\na: c\n".toList) true = .ok ⟨some document, []⟩ ∧
          valueAtKey? document (.text "a") = some (.text "b") ∧
          ∃ position, locateKey (splitLines "a: b\na: c\n".toList) ['a'] = some position ∧ position.line = 0 := by
  have some_entry : twoEntries ≠ [] := by decide
  have first : IsFirstEntry twoEntries 0 (letterEntry 'a' 'b' (by decide)) := ⟨rfl, by simp⟩
  -- The document and the line come from the general statement.
  obtain ⟨document, parsed, -, counts⟩ := firstEntries_count true twoEntries some_entry isText_twoEntries
  obtain ⟨valued, found⟩ := counts 0 _ first
  rw [entryText_twoEntries] at parsed found
  exact ⟨some_entry, isText_twoEntries, first, document, parsed, valued, found⟩

/-- The value of the second one is not in the document. -/
theorem twoEntries_drop_later :
    ¬ ∃ document,
      parseDocument "a: b\na: c\n".toList (splitLines "a: b\na: c\n".toList) true = .ok ⟨some document, []⟩ ∧
        valueAtKey? document (.text "a") = some (.text "c") := by
  -- The document is computed, and then the value of the second entry is not there to be found.
  have kept : twoEntries.foldl (keepFirst EntryLine.text) [] = [(.text "a", .text "b")] := rfl
  have read := parseDocument_entryText true (by decide) (fun e member => (isText_twoEntries e member).readsAs)
    (.inl rfl) (splitLines "a: b\na: c\n".toList)
  rw [entryText_twoEntries, kept] at read
  rintro ⟨document, parsed, later⟩
  rw [read, Except.ok.injEq, ParseOutcome.mk.injEq, Option.some.injEq] at parsed
  rw [← parsed.1] at later
  simp [valueAtKey?, Value.sameKey] at later

end PlanLint
