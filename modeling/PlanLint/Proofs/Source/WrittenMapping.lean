import PlanLint.Proofs.Source.KeyLine
import PlanLint.Proofs.Source.OwnField

/-! In a mapping that is written with its names at one column, each name is found on the line of its own entry. -/

namespace PlanLint

/-- A text that can name an entry: it has no colon and does not start with a blank, a comment sign or a dash. -/
structure IsEntryName (name : List Char) : Prop where
  first : name.head?.any (fun c => !isBlank c && c != '#' && c != '-') = true
  plain : ':' ∉ name

/-- An entry as it is written. -/
structure WrittenEntry where
  name : List Char
  /-- The line that gives the name a value. -/
  first : Line
  /-- The lines below it. -/
  rest : List Line

/-- All lines of an entry. -/
def WrittenEntry.lines (entry : WrittenEntry) : List Line := entry.first :: entry.rest

/-- An entry gives its name at a column. What it says below that is indented deeper, or an item at the column. -/
structure WrittenEntry.WellIndented (column : Nat) (entry : WrittenEntry) : Prop where
  named : IsEntryName entry.name
  gives : IsKeyLine column entry.name entry.first
  nested : ∀ line ∈ entry.rest, isSilent line = true ∨ continuesBlock column line = true

/-- A mapping as it is written below the line of its key, with the text around it. -/
structure WrittenMapping where
  before : List Line
  header : Line
  /-- The lines between the header and the first entry. -/
  gap : List Line
  entries : List WrittenEntry
  after : List Line

/-- The whole text. -/
def WrittenMapping.lines (s : WrittenMapping) : List Line :=
  s.before ++ s.header :: (s.gap ++ s.entries.flatMap WrittenEntry.lines ++ s.after)

/-- The number of the first line behind some entries, counted from the first of them. -/
def WrittenMapping.lineBehind (s : WrittenMapping) (front : List WrittenEntry) : Nat :=
  s.before.length + 1 + s.gap.length + (front.flatMap WrittenEntry.lines).length

/-- The entries stand at one column, deeper than the header, with nothing said before them and no name given twice,
and what follows closes the block. -/
structure WrittenMapping.WellIndented (outer column : Nat) (s : WrittenMapping) : Prop where
  deep : outer < column
  gap : ∀ line ∈ s.gap, isSilent line = true
  entries : ∀ entry ∈ s.entries, entry.WellIndented column
  distinct : (s.entries.map WrittenEntry.name).Nodup
  closed : ClosesBlock outer s.after

/-- A name of an entry can be a key by itself: without a dash in front it does not start with a marker. -/
theorem IsEntryName.isKeyText {name : List Char} (named : IsEntryName name) : IsKeyText name := by
  -- A marker starts with a dash, which the first character is not.
  have first := named.first
  cases name with
  | nil => exact absurd first (by simp)
  | cons c rest =>
    simp only [List.head?_cons, Option.any_some, Bool.and_eq_true, bne_iff_ne] at first
    refine ⟨by simp [first.1], ?_⟩
    rintro ⟨later, marked⟩
    exact first.2 (List.cons.inj marked).1.symm

/-- A line gives only one name without a colon at a column. -/
theorem IsKeyLine.name_eq {column : Nat} {name other : List Char} {line : Line} (gives : IsKeyLine column name line)
    (also : IsKeyLine column other line) (plain : ':' ∉ name) (bare : ':' ∉ other) : name = other := by
  obtain ⟨blanks, after, whole, width, -, ends⟩ := gives
  obtain ⟨margin, rest, split, size, -, stops⟩ := also
  -- Behind as many blanks stands the same text, and the name is what it has before its first colon.
  have behind := (List.append_inj (whole.symm.trans split) (width.trans size.symm)).2
  have named := congrArg fieldName behind
  rw [fieldName_append plain ends, fieldName_append bare stops] at named
  exact Option.some.inj named

section Entry

variable {column outer : Nat} {entry : WrittenEntry} {key : List Char} {line : Line}

/-- The first line of an entry says something, at the column of the entries. -/
theorem WrittenEntry.WellIndented.spoken (well : entry.WellIndented column) :
    isSilent entry.first = false ∧ indent entry.first = column :=
  well.gives.spoken well.named.isKeyText

/-- Every line of an entry is silent or goes on with the block around it. -/
theorem WrittenEntry.WellIndented.reaches (deep : outer < column) (well : entry.WellIndented column)
    (member : line ∈ entry.lines) : (isSilent line || continuesBlock outer line) = true := by
  have level := well.spoken.2
  rcases List.mem_cons.mp member with rfl | below
  · -- The name stands deeper than the header.
    refine Bool.or_eq_true_iff.mpr (.inr ?_)
    simp [continuesBlock, level, deep]
  · rcases well.nested line below with silent | nested
    · simp [silent]
    · -- What goes on below the name goes on below the header too.
      exact Bool.or_eq_true_iff.mpr (.inr (continuesBlock_mono (Nat.le_of_lt deep) nested))

/-- Below the first line of an entry no key is found at the column of the entries. -/
theorem WrittenEntry.WellIndented.matchKeyAt_rest (well : entry.WellIndented column) (below : line ∈ entry.rest)
    (key : List Char) (number : Nat) : matchKeyAt column key (line, number) = none := by
  rcases well.nested line below with silent | nested
  · exact matchKeyAt_eq_none_of_silent column silent
  · cases found : matchKeyAt column key (line, number) with
    | none => rfl
    | some position =>
      -- A key of a deeper line stands deeper, and so does one behind a dash at the column.
      obtain ⟨-, -, start, matched⟩ := matchKeyAt_eq_some found
      have deeper := lt_keyStart_of_continuesBlock nested matched
      omega

/-- On the first line no other name is found there. -/
theorem WrittenEntry.WellIndented.matchKeyAt_first (well : entry.WellIndented column) (named : IsEntryName key)
    (other : entry.name ≠ key) (number : Nat) : matchKeyAt column key (entry.first, number) = none := by
  -- A line gives one name only, so a key that is found on it is the name of the entry.
  cases found : matchKeyAt column key (entry.first, number) with
  | none => rfl
  | some position =>
    have also := (isKeyLine_of_matchKeyAt found).1
    exact absurd (well.gives.name_eq also well.named.plain named.plain) other

/-- So a name that none of some entries has is found on none of their lines. -/
theorem findSome?_matchKeyAt_of_absent {entries : List WrittenEntry}
    (well : ∀ entry ∈ entries, entry.WellIndented column) (named : IsEntryName key)
    (absent : ∀ entry ∈ entries, entry.name ≠ key) (start : Nat) :
    ((entries.flatMap WrittenEntry.lines).zipIdx start).findSome? (matchKeyAt column key) = none := by
  refine List.findSome?_eq_none_iff.mpr ?_
  rintro ⟨line, number⟩ member
  obtain ⟨entry, among, inside⟩ := List.mem_flatMap.mp (List.fst_mem_of_mem_zipIdx member)
  -- Each line is the first one of an entry, which gives another name, or one below it, which gives none.
  rcases List.mem_cons.mp inside with rfl | below
  · exact (well entry among).matchKeyAt_first named (absent entry among) number
  · exact (well entry among).matchKeyAt_rest below key number

/-- The search for a name passes over the entries in front of its own, since none of them has the name. -/
theorem findSome?_matchKeyAt_own {front back : List WrittenEntry} {own : KeyPosition} {start : Nat}
    (well : ∀ other ∈ front ++ entry :: back, other.WellIndented column)
    (distinct : ((front ++ entry :: back).map WrittenEntry.name).Nodup)
    (found :
      matchKeyAt column entry.name (entry.first, start + (front.flatMap WrittenEntry.lines).length) = some own) :
    (((front ++ entry :: back).flatMap WrittenEntry.lines).zipIdx start).findSome? (matchKeyAt column entry.name) =
      some own := by
  -- An entry in front with the same name would give it twice.
  rw [List.map_append, List.map_cons, List.nodup_append] at distinct
  have absent : ∀ other ∈ front, other.name ≠ entry.name := fun other early =>
    distinct.2.2 _ (List.mem_map_of_mem early) _ (by simp)
  have passed := findSome?_matchKeyAt_of_absent (fun other early => well other (List.mem_append_left _ early))
    (well entry (by simp)).named absent start
  rw [List.flatMap_append, List.zipIdx_append, List.findSome?_append, passed, Option.none_or, List.flatMap_cons,
    WrittenEntry.lines, List.cons_append, List.zipIdx_cons, List.findSome?_cons, found]

end Entry

section Written

variable {s : WrittenMapping} {header : KeyPosition} {column : Nat}

/-- What the block of the header says is what the entries say. -/
theorem spokenLines_blockLines_written (position : header.line = s.before.length)
    (written : s.WellIndented header.keyStart column) :
    spokenLines (blockLines s.lines header) =
      spokenLines ((s.entries.flatMap WrittenEntry.lines).zipIdx (s.lineBehind [])) := by
  have body : blockBody header.keyStart (s.lines.drop (header.line + 1)) =
      (s.gap ++ s.entries.flatMap WrittenEntry.lines).rdropWhile isSilent := by
    rw [position, WrittenMapping.lines]
    refine blockBody_between written.gap ?_ written.closed
    intro line member
    obtain ⟨entry, among, inside⟩ := List.mem_flatMap.mp member
    exact (written.entries entry among).reaches written.deep inside
  -- The gap says nothing, so the first line that does is one of an entry.
  rw [spokenLines, filter_blockLines_of_body body written.gap (by simp), position]
  rfl

/-- A child of the header is looked for at the column of the entries, on their lines. -/
theorem locateChildKey_written (position : header.line = s.before.length)
    (written : s.WellIndented header.keyStart column) (key : List Char) :
    locateChildKey s.lines key header =
      ((s.entries.flatMap WrittenEntry.lines).zipIdx (s.lineBehind [])).findSome? (matchKeyAt column key) := by
  have spoken := spokenLines_blockLines_written position written
  have quiet : ∀ column, ∀ line : NumberedLine, isSilent line.1 = true → matchKeyAt column key line = none :=
    fun column _ silent => matchKeyAt_eq_none_of_silent column silent
  unfold locateChildKey
  dsimp only
  rw [← head?_spokenLines, spoken]
  cases entries : s.entries with
  -- A block without entries says nothing, and nothing is found in it.
  | nil => rfl
  | cons entry rest =>
    obtain ⟨loud, level⟩ := (written.entries entry (by simp [entries])).spoken
    -- The first line that says something is that of the first entry.
    have head : (spokenLines (((entry :: rest).flatMap WrittenEntry.lines).zipIdx (s.lineBehind []))).head? =
        some (entry.first, s.lineBehind []) := by
      rw [List.flatMap_cons, WrittenEntry.lines, List.cons_append, List.zipIdx_cons, spokenLines,
        List.filter_cons_of_pos (by simp [loud]), List.head?_cons]
    rw [head]
    dsimp only
    rw [level, ← findSome?_spokenLines _ (quiet column), spoken, entries, findSome?_spokenLines _ (quiet column)]

/-- The first line of an entry stands behind the entries before it. -/
theorem getElem?_lineBehind {front back : List WrittenEntry} {entry : WrittenEntry}
    (split : s.entries = front ++ entry :: back) : s.lines[s.lineBehind front]? = some entry.first := by
  -- Everything in front of the line is put together, and its length is the number of the line.
  have whole : s.lines = (s.before ++ s.header :: (s.gap ++ front.flatMap WrittenEntry.lines)) ++
      entry.first :: (entry.rest ++ back.flatMap WrittenEntry.lines ++ s.after) := by
    simp [WrittenMapping.lines, split, WrittenEntry.lines]
  have size : s.lineBehind front = (s.before ++ s.header :: (s.gap ++ front.flatMap WrittenEntry.lines)).length := by
    simp only [WrittenMapping.lineBehind, List.length_append, List.length_cons]
    omega
  rw [whole, size, List.getElem?_append_right (Nat.le_refl _), Nat.sub_self, List.getElem?_cons_zero]

end Written

/-- In a well-indented mapping each name is found on the line of its own entry, at the column of the entries,
whatever is nested in the entries, and no other name is found. -/
theorem written_entries_located (s : WrittenMapping) (header : KeyPosition) (column : Nat)
    (position : header.line = s.before.length) (written : s.WellIndented header.keyStart column) :
    (∀ front entry back, s.entries = front ++ entry :: back →
      s.lines[s.lineBehind front]? = some entry.first ∧
        ∃ own, locateChildKey s.lines entry.name header = some own ∧ IsKeyAt s.lines entry.name own ∧
          own.line = s.lineBehind front ∧ own.keyStart = column ∧ own.keyEnd = column + entry.name.length) ∧
      ∀ key, IsEntryName key → (∀ entry ∈ s.entries, entry.name ≠ key) →
        locateChildKey s.lines key header = none := by
  refine ⟨?_, ?_⟩
  · intro front entry back split
    have well := written.entries entry (by simp [split])
    have at_ := getElem?_lineBehind split
    -- The first line of the entry gives its name, and the search passes over all lines in front of it.
    obtain ⟨own, found⟩ : ∃ own, matchKeyAt column entry.name (entry.first, s.lineBehind front) = some own :=
      (exists_matchKeyAt_iff well.named.isKeyText).mpr well.gives
    obtain ⟨-, number, start, stop⟩ := isKeyLine_of_matchKeyAt found
    have located : locateChildKey s.lines entry.name header = some own := by
      rw [locateChildKey_written position written, split]
      exact findSome?_matchKeyAt_own (split ▸ written.entries) (split ▸ written.distinct) found
    exact ⟨at_, own, located, (locateChildKey_eq_some located).2.2.1, number, start, stop⟩
  · intro key named absent
    rw [locateChildKey_written position written]
    exact findSome?_matchKeyAt_of_absent written.entries named absent _

/-- A lifecycle of two hooks. The first one has a nested key with the name of the second one, in an item at the
column of the hooks as well. -/
def smallMapping : WrittenMapping where
  before := ["project: shop".toList]
  header := "lifecycle:".toList
  gap := ["  # hooks".toList]
  entries := [⟨"pre_up".toList, "  pre_up:".toList, ["  - post_up: echo".toList, "    post_up: again".toList]⟩,
    ⟨"post_up".toList, "  post_up: []".toList, ["".toList]⟩]
  after := ["version: 1.0".toList]

/-- The two hooks are written at one column. -/
theorem smallMapping_wellIndented : smallMapping.WellIndented 0 2 := by
  have blank : ∀ c ∈ "  ".toList, isBlank c = true := List.all_eq_true.mp (by decide)
  refine ⟨by decide, by decide +kernel, ?_, by decide +kernel, by decide +kernel⟩
  -- Each of the two first lines is written as blanks, the name, a colon and a rest.
  intro entry member
  simp only [smallMapping, List.mem_cons, List.not_mem_nil, or_false] at member
  rcases member with rfl | rfl
  · exact ⟨⟨by decide, by decide⟩, ⟨"  ".toList, [], rfl, rfl, blank, rfl⟩, by decide +kernel⟩
  · exact ⟨⟨by decide, by decide⟩, ⟨"  ".toList, " []".toList, rfl, rfl, blank, by decide⟩, by decide +kernel⟩

/-- So the second hook is found on its own line, not on those with the nested keys, and a hook that is not written is
not found. -/
theorem smallMapping_located :
    smallMapping.WellIndented 0 2 ∧
      locateKey smallMapping.lines "lifecycle".toList = some ⟨1, 0, 9, 10, 10⟩ ∧
      (∃ own, locateChildKey smallMapping.lines "post_up".toList ⟨1, 0, 9, 10, 10⟩ = some own ∧
        own.line = 6 ∧ own.keyStart = 2 ∧ own.keyEnd = 9) ∧
      locateChildKey smallMapping.lines "pre_down".toList ⟨1, 0, 9, 10, 10⟩ = none := by
  -- The lines of the hooks are given by the general statement.
  obtain ⟨named, others⟩ := written_entries_located smallMapping ⟨1, 0, 9, 10, 10⟩ 2 rfl smallMapping_wellIndented
  obtain ⟨-, own, located, -, number, start, stop⟩ := named (smallMapping.entries.take 1) _ [] rfl
  exact ⟨smallMapping_wellIndented, by decide +kernel, ⟨own, located, number, start, stop⟩,
    others _ ⟨by decide, by decide⟩ (by decide)⟩

end PlanLint
