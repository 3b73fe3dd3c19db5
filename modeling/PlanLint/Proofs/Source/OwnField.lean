import PlanLint.Proofs.Source.Columns
import PlanLint.Proofs.Source.WrittenSequence

/-! A field of an item is found at its own place unless a line that is nested in the item gives the
same key before it. -/

namespace PlanLint

/-- The name that a text gives a value: what stands before the first colon that a blank follows, or
that ends the text. -/
def fieldName : List Char → Option (List Char)
  | [] => none
  | c :: rest =>
    if c == ':' && rest.head?.all isBlank then some []
    else (fieldName rest).map (c :: ·)

/-- The name that a line gives a value at a column, if its content starts there. -/
def fieldAt (column : Nat) (line : Line) : Option (List Char) :=
  if isSilent line || contentColumn line != column then none else fieldName (content line)

/-- The fields of an item stand at a column, each once, the first of them behind the dash. Every other
line of the item is silent or nested in one of them. -/
structure WrittenItem.Keyed (column : Nat) (item : WrittenItem) : Prop where
  first : (fieldAt column item.first).isSome = true
  rest : ∀ line ∈ item.rest,
    isSilent line = true ∨ continuesBlock column line = true ∨ (fieldAt column line).isSome = true
  once : (item.lines.filterMap (fieldAt column)).Nodup

/-- Behind a name without a colon, the first colon that ends a name is the one behind it. -/
theorem fieldName_append {key after : List Char} (plain : ':' ∉ key) (ends : after.head?.all isBlank = true) :
    fieldName (key ++ ':' :: after) = some key := by
  -- Every character of the name is passed over, since none of them is a colon.
  induction key with
  | nil => simp [fieldName, ends]
  | cons c key ih =>
    obtain ⟨other, later⟩ := not_or.mp (List.mem_cons.not.mp plain)
    have skipped : (c == ':') = false := by simpa using Ne.symm other
    rw [List.cons_append, fieldName, skipped, Bool.false_and, if_neg (by decide), ih later]
    rfl

/-- The text behind a name starts with the colon that ends it. -/
theorem eq_append_of_fieldName {text key : List Char} (named : fieldName text = some key) :
    ∃ after, text = key ++ ':' :: after ∧ after.head?.all isBlank = true := by
  -- Induction along the text: a name ends at the colon that is found, or goes on by one character.
  induction text generalizing key with
  | nil => simp [fieldName] at named
  | cons c rest ih =>
    rw [fieldName] at named
    split at named
    · rename_i ends
      -- The name ends here, with nothing of it before the colon.
      obtain ⟨colon, blank⟩ := Bool.and_eq_true_iff.mp ends
      cases named
      exact ⟨rest, by rw [beq_iff_eq.mp colon]; rfl, blank⟩
    · obtain ⟨name, found, rfl⟩ := Option.map_eq_some_iff.mp named
      obtain ⟨after, same, blank⟩ := ih found
      exact ⟨after, by rw [same]; rfl, blank⟩

/-- A line gives a name at a column if it says something and its content starts there with the name. -/
theorem fieldAt_eq_some_iff {column : Nat} {line : Line} {name : List Char} :
    fieldAt column line = some name ↔
      isSilent line = false ∧ contentColumn line = column ∧ fieldName (content line) = some name := by
  -- The two conditions on the line are those of the test in front of the name.
  rw [fieldAt, Option.ite_none_left_eq_some]
  simp [and_assoc]

/-- A line that gives a name at a column has that key there. -/
theorem matchKey_of_fieldAt {column : Nat} {line : Line} {key : List Char} (owned : fieldAt column line = some key)
    (number : Nat) :
    ∃ own, matchKey line key number = some own ∧ own.line = number ∧ own.keyStart = column ∧
      own.keyEnd = column + key.length := by
  obtain ⟨-, rfl, named⟩ := fieldAt_eq_some_iff.mp owned
  -- The name and the colon behind it are what a key is matched with.
  obtain ⟨after, text, ends⟩ := eq_append_of_fieldName named
  exact ⟨_, matchKey_eq_some_iff.mpr ⟨after, text, ends, rfl⟩, rfl, rfl, rfl⟩

/-- A key without a colon that is found at a column is the name that the line gives there. -/
theorem fieldAt_of_matchKey {line : Line} {key : List Char} {number : Nat} {position : KeyPosition}
    (plain : ':' ∉ key) (named : key.head? ≠ some '#') (found : matchKey line key number = some position) :
    fieldAt position.keyStart line = some key := by
  -- A key that is found stands on a line that speaks, and its colon ends the name.
  have spoken := isSilent_of_matchKey named found
  obtain ⟨after, text, ends, rfl⟩ := matchKey_eq_some_iff.mp found
  refine fieldAt_eq_some_iff.mpr ⟨spoken, rfl, ?_⟩
  rw [text, fieldName_append plain ends]

/-- A line that gives a name at a column has its content there. -/
theorem contentColumn_of_fieldAt {column : Nat} {line : Line} (owned : (fieldAt column line).isSome = true) :
    contentColumn line = column := by
  -- Only a line at the column gives a name at all.
  obtain ⟨name, owned⟩ := Option.isSome_iff_exists.mp owned
  exact (fieldAt_eq_some_iff.mp owned).2.1

/-- In an item no key stands before the column of the fields. -/
theorem WrittenItem.Keyed.le_keyStart {column : Nat} {item : WrittenItem} (keyed : item.Keyed column)
    {line : Line} (member : line ∈ item.lines) {key : List Char} {number : Nat} {position : KeyPosition}
    (named : key.head? ≠ some '#') (found : matchKey line key number = some position) :
    column ≤ position.keyStart := by
  -- A key starts with the content of its line, so the cases are those of the lines of an item.
  have start := (matchKey_eq_some found).2.2
  rcases List.mem_cons.mp member with rfl | below
  · exact (contentColumn_of_fieldAt keyed.first ▸ start).ge
  · rcases keyed.rest line below with silent | nested | owned
    · -- A silent line gives no key.
      rw [isSilent_of_matchKey named found] at silent
      exact absurd silent (by decide)
    · exact (lt_keyStart_of_continuesBlock nested found).le
    · exact (contentColumn_of_fieldAt owned ▸ start).ge

/-- No field stands on two lines of an item. -/
theorem WrittenItem.Keyed.place_eq {column : Nat} {item : WrittenItem} (keyed : item.Keyed column)
    {key : List Char} {place other : Nat} {line text : Line} (at_ : item.lines[place]? = some line)
    (also : item.lines[other]? = some text) (owned : fieldAt column line = some key)
    (again : fieldAt column text = some key) : place = other := by
  have apart := List.pairwise_iff_getElem.mp (List.pairwise_filterMap.mp keyed.once)
  obtain ⟨inside, rfl⟩ := List.getElem?_eq_some_iff.mp at_
  obtain ⟨within, rfl⟩ := List.getElem?_eq_some_iff.mp also
  -- Whichever of two places comes first, its name is not given at the other.
  rcases Nat.lt_trichotomy place other with before | same | behind
  · exact absurd rfl (apart place other inside within before key owned key again)
  · exact same
  · exact absurd rfl (apart other place within inside behind key again key owned)

/-- A key also stands nested in an item, on a line before the item's own field of that name. -/
def NestedBefore (lines : List Line) (key : List Char) (span : LineSpan) (own : KeyPosition) : Prop :=
  ∃ nested, IsKeyAt lines key nested ∧ span.first ≤ nested.line ∧ nested.line < own.line ∧
    own.keyStart < nested.keyStart

section Owned

variable {s : WrittenSequence} {item : WrittenItem} {start place column : Nat} {key : List Char} {line : Line}

/-- A field of an item stands in the whole text on the line that its place says. -/
theorem exists_isKeyAt_of_owned (placed : (item, start) ∈ s.placed) (at_ : item.lines[place]? = some line)
    (owned : fieldAt column line = some key) :
    ∃ own, IsKeyAt s.lines key own ∧ own.line = start + place ∧ own.keyStart = column ∧
      own.keyEnd = column + key.length := by
  -- The line of the item is a line of the text, and there the name is found as a key.
  obtain ⟨own, found, number, columns⟩ := matchKey_of_fieldAt owned (start + place)
  have there : s.lines[start + place]? = some line := by
    rw [s.getElem?_of_placed placed (List.getElem?_eq_some_iff.mp at_).1, at_]
  exact ⟨own, (isKeyAt_of_matchKey there found).2, number, columns⟩

/-- A key that stands in an item before its own field of that name is nested. -/
theorem WrittenItem.Keyed.nested_of_lt (keyed : item.Keyed column) (placed : (item, start) ∈ s.placed)
    (plain : ':' ∉ key) (named : key.head? ≠ some '#') (at_ : item.lines[place]? = some line)
    (owned : fieldAt column line = some key) {other : KeyPosition} (here : IsKeyAt s.lines key other)
    (above : start ≤ other.line) (before : other.line < start + place) : column < other.keyStart := by
  obtain ⟨text, there, found⟩ := here
  -- The line is one of the item, since the field stands on a later one.
  have within := (List.getElem?_eq_some_iff.mp at_).1
  have own := s.getElem?_of_placed placed (by omega : other.line - start < item.lines.length)
  rw [Nat.add_sub_cancel' above, there] at own
  have deep := keyed.le_keyStart (List.mem_of_getElem? own.symm) named found
  rcases Nat.lt_or_eq_of_le deep with deeper | level
  · exact deeper
  · -- At the column itself it would be the same field, on another line.
    have again := fieldAt_of_matchKey plain named found
    rw [← level] at again
    have same := keyed.place_eq at_ own.symm owned again
    omega

end Owned

/-- A field that an item owns stands in the span of the item. It is the one that is found there, and
its value the one that is read, exactly if no nested line before it gives the same key. -/
theorem ownField_located_iff (s : WrittenSequence) (header : KeyPosition) (dash column : Nat)
    (position : header.line = s.before.length) (written : s.WellIndented header.keyStart dash)
    (item : WrittenItem) (start : Nat) (placed : (item, start) ∈ s.placed) (keyed : item.Keyed column)
    (key : List Char) (plain : ':' ∉ key) (named : key.head? ≠ some '#')
    (place : Nat) (line : Line) (at_ : item.lines[place]? = some line) (owned : fieldAt column line = some key) :
    item.spanAt start ∈ blockItemSpans s.lines header ∧
      ∃ own, IsKeyAt s.lines key own ∧ own.line = start + place ∧ own.line ≤ (item.spanAt start).last ∧
        own.keyStart = column ∧ own.keyEnd = column + key.length ∧
        (locateKeyInSpan s.lines key (item.spanAt start) = some own ↔
          ¬ NestedBefore s.lines key (item.spanAt start) own) ∧
        ∀ fallback, fieldValueRange s.lines (some (item.spanAt start)) key fallback = own.valueRange ↔
          ¬ NestedBefore s.lines key (item.spanAt start) own := by
  have spanned : item.spanAt start ∈ blockItemSpans s.lines header := by
    rw [blockItemSpans_written position written]
    exact List.mem_map_of_mem placed
  obtain ⟨own, here, number, level, stop⟩ := exists_isKeyAt_of_owned placed at_ owned
  -- The field's line says something, so it is not among the silent lines behind the item's body.
  have spoken : isSilent line = false := (fieldAt_eq_some_iff.mp owned).1
  have reach := WrittenItem.place_le_length_body at_ spoken
  have above : (item.spanAt start).first ≤ own.line := by
    rw [number]
    exact Nat.le_add_right start place
  have below : own.line ≤ (item.spanAt start).last := by
    rw [number]
    exact Nat.add_le_add_left reach start
  -- The field is found exactly if nothing before it is, and what stands before it is nested.
  have first : locateKeyInSpan s.lines key (item.spanAt start) = some own ↔
      ¬ NestedBefore s.lines key (item.spanAt start) own := by
    rw [locateKeyInSpan_eq_some_iff]
    constructor
    · rintro ⟨-, -, -, first⟩ ⟨nested, also, inside, before, -⟩
      exact absurd (first nested also inside) (by omega)
    · intro alone
      refine ⟨here, above, below, ?_⟩
      intro earlier also inside
      by_contra before
      have deeper := keyed.nested_of_lt placed plain named at_ owned also inside (by omega)
      exact alone ⟨earlier, also, inside, by omega, by omega⟩
  refine ⟨spanned, own, here, number, below, level, stop, first, ?_⟩
  -- The value that is read is the one of the position that is found.
  intro fallback
  rw [fieldValueRange_eq_iff here above below, first]

/-- The text of a release that has a name and the given lines below it. -/
def releaseText (rest : List Line) : WrittenSequence where
  before := ["project: shop".toList]
  header := "releases:".toList
  gap := []
  items := [⟨"  - name: api".toList, rest⟩]
  after := ["".toList]

/-- Such a text is well indented if the lines are deeper than the dash. -/
theorem releaseText_wellIndented {rest : List Line}
    (deeper : ∀ line ∈ rest, isSilent line = true ∨ 2 < indent line) : (releaseText rest).WellIndented 0 2 := by
  have closed : ClosesBlock 0 ["".toList] := by decide +kernel
  have starts : isItem "  - name: api".toList = true := by decide +kernel
  have level : indent "  - name: api".toList = 2 := by decide +kernel
  -- All but the depth of the lines is about the fixed lines of the text.
  refine ⟨Nat.zero_le 2, List.forall_mem_nil _, ?_, closed⟩
  intro item member
  obtain rfl := List.mem_singleton.mp member
  exact ⟨starts, level, deeper⟩

/-- A release whose own strategy stands above one in its store. -/
def strategyAboveStore : List Line :=
  ["    pending_release_strategy: never".toList, "    store:".toList,
    "      pending_release_strategy: any text".toList]

/-- There the own strategy is found. -/
theorem strategyAboveStore_located :
    (releaseText strategyAboveStore).WellIndented 0 2 ∧
      WrittenItem.Keyed 4 ⟨"  - name: api".toList, strategyAboveStore⟩ ∧
      locateKeyInSpan (releaseText strategyAboveStore).lines "pending_release_strategy".toList ⟨2, 5⟩ =
        some ⟨3, 4, 28, 30, 35⟩ := by
  have written : (releaseText strategyAboveStore).WellIndented 0 2 :=
    releaseText_wellIndented (by decide +kernel)
  have keyed : WrittenItem.Keyed 4 ⟨"  - name: api".toList, strategyAboveStore⟩ :=
    ⟨by decide +kernel, by decide +kernel, by decide +kernel⟩
  refine ⟨written, keyed, ?_⟩
  obtain ⟨-, own, here, number, -, -, -, first, -⟩ :=
    ownField_located_iff (releaseText strategyAboveStore) ⟨1, 0, 8, 9, 9⟩ 2 4 rfl written
      ⟨"  - name: api".toList, strategyAboveStore⟩ 2 (List.mem_singleton_self _) keyed
      "pending_release_strategy".toList (by decide +kernel) (by decide +kernel) 1 _ rfl (by decide +kernel)
  -- The position on the line of the field is the own one.
  have at_ : IsKeyAt (releaseText strategyAboveStore).lines "pending_release_strategy".toList
      ⟨3, 4, 28, 30, 35⟩ := ⟨_, rfl, by decide +kernel⟩
  obtain rfl := here.eq_of_line_eq at_ number
  refine first.mpr ?_
  rintro ⟨nested, ⟨line, there, found⟩, above, before, -⟩
  -- Only the line with the dash stands above it, and that one gives another key.
  obtain same : nested.line = 2 := Nat.le_antisymm (Nat.le_of_lt_succ before) above
  rw [same] at there found
  obtain rfl : "  - name: api".toList = line := Option.some.inj there
  have none : matchKey "  - name: api".toList "pending_release_strategy".toList 2 = none := by decide +kernel
  rw [none] at found
  exact absurd found (by simp)

/-- A release whose own strategy stands below one in its store. -/
def strategyBelowStore : List Line :=
  ["    chart: shop/api".toList, "    namespace: web".toList, "    store:".toList,
    "      pending_release_strategy: any text".toList, "    pending_release_strategy: never".toList]

/-- There the one in the store is found, and its value is read, although the release owns the field. -/
theorem strategyBelowStore_misplaced :
    (releaseText strategyBelowStore).WellIndented 0 2 ∧
      WrittenItem.Keyed 4 ⟨"  - name: api".toList, strategyBelowStore⟩ ∧
      fieldAt 4 "    pending_release_strategy: never".toList = some "pending_release_strategy".toList ∧
      itemSpans (releaseText strategyBelowStore).lines "releases".toList = [⟨2, 7⟩] ∧
      IsKeyAt (releaseText strategyBelowStore).lines "pending_release_strategy".toList ⟨7, 4, 28, 30, 35⟩ ∧
      locateKeyInSpan (releaseText strategyBelowStore).lines "pending_release_strategy".toList ⟨2, 7⟩ =
        some ⟨6, 6, 30, 32, 40⟩ ∧
      ∀ fallback, fieldValueRange (releaseText strategyBelowStore).lines (some ⟨2, 7⟩)
        "pending_release_strategy".toList fallback = .onLine 6 32 40 := by
  -- The position that is found is computed: it is on the line that is nested in the store.
  have found : locateKeyInSpan (releaseText strategyBelowStore).lines "pending_release_strategy".toList
      ⟨2, 7⟩ = some ⟨6, 6, 30, 32, 40⟩ := by decide +kernel
  refine ⟨releaseText_wellIndented (by decide +kernel), ⟨by decide +kernel, by decide +kernel, by decide +kernel⟩,
    by decide +kernel, by decide +kernel, ⟨_, rfl, by decide +kernel⟩, found, ?_⟩
  intro fallback
  rw [fieldValueRange, Option.bind_some, found]
  rfl

end PlanLint
