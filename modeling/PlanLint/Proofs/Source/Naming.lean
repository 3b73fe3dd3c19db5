import PlanLint.Proofs.Source.Content

/-! Whichever way a key is looked up, the position that is found spells the key on its line. -/

namespace PlanLint

/-- Item markers, each with the blanks behind it. -/
inductive IsMarkers : List Char → Prop where
  | none : IsMarkers []
  | marker {blanks later : List Char} (apart : blanks ≠ []) (blank : ∀ c ∈ blanks, isBlank c = true)
      (rest : IsMarkers later) : IsMarkers ('-' :: (blanks ++ later))

/-- What can stand in front of a key: the indentation of its line, and item markers. -/
def IsLead (lead : List Char) : Prop :=
  ∃ blanks markers, lead = blanks ++ markers ∧ (∀ c ∈ blanks, isBlank c = true) ∧ IsMarkers markers

/-- A position spells a key on a line: the key stands between its columns, behind indentation and markers alone and
in front of a colon that a blank follows or that ends the line, and the value is behind the colon. -/
structure KeyPosition.Spells (key : List Char) (whole : Line) (position : KeyPosition) : Prop where
  text : (whole.take position.keyEnd).drop position.keyStart = key
  width : position.keyEnd = position.keyStart + key.length
  colon : whole[position.keyEnd]? = some ':'
  behind : (whole[position.keyEnd + 1]?).all isBlank = true
  lead : IsLead (whole.take position.keyStart)
  value : position.keyEnd < position.valueStart
  ordered : position.valueStart ≤ position.valueEnd
  inside : position.valueEnd ≤ whole.length

/-- The ways in which a key is looked up. -/
inductive KeySearch where
  /-- At the top level. -/
  | topLevel
  /-- In the block of a key of the top level. -/
  | under (parent : List Char)
  /-- In the block of a header. -/
  | below (header : KeyPosition)
  /-- Among the direct children of a header. -/
  | child (header : KeyPosition)
  /-- In a span of lines. -/
  | inSpan (span : LineSpan)
  /-- In the block of a key that stands in a span of lines. -/
  | inSpanUnder (parent : List Char) (span : LineSpan)

/-- What a search gives. -/
def KeySearch.find (lines : List Line) (key : List Char) : KeySearch → Option KeyPosition
  | .topLevel => locateKey lines key
  | .under parent => locateKeyUnder lines key parent
  | .below header => locateKeyBelow lines key header
  | .child header => locateChildKey lines key header
  | .inSpan span => locateKeyInSpan lines key span
  | .inSpanUnder parent span => locateKeyInSpanUnder lines key parent span

/-- Whether a search wants the key at a column, so that no marker can stand in front of it. -/
def KeySearch.wantsColumn : KeySearch → Bool
  | .topLevel => true
  | .child _ => true
  | _ => false

/-- A dash with a space behind it is a marker, and so is each of the following ones. -/
theorem AreItemMarkers.isMarkers {markers : List Char} (marked : AreItemMarkers markers) : IsMarkers markers := by
  induction marked with
  | none => exact .none
  | @marker blanks later blank rest ih =>
    -- The space is the first of the blanks.
    have spaced : ∀ c ∈ ' ' :: blanks, isBlank c = true := List.forall_mem_cons.mpr ⟨by decide, blank⟩
    exact .marker (List.cons_ne_nil ' ' blanks) spaced ih

/-- What stands in front of a text's content are markers. -/
theorem exists_markers (text : List Char) : ∃ markers, IsMarkers markers ∧ text = markers ++ behindMarkers text := by
  -- They are item markers, which are markers with their blanks.
  obtain ⟨markers, marked, split⟩ := exists_itemMarkers text
  exact ⟨markers, marked.isMarkers, split⟩

/-- A line is its lead and its content, which starts at its column. -/
theorem exists_lead (line : Line) :
    ∃ lead, IsLead lead ∧ line = lead ++ content line ∧ lead.length = contentColumn line := by
  obtain ⟨markers, marked, split⟩ := exists_markers (trimStart line)
  have whole : line = (line.takeWhile isBlank ++ markers) ++ content line := by
    rw [List.append_assoc, content, ← split]
    exact List.takeWhile_append_dropWhile.symm
  refine ⟨line.takeWhile isBlank ++ markers, ?_, whole, ?_⟩
  · exact ⟨_, markers, rfl, fun c member => List.mem_takeWhile_imp member, marked⟩
  · -- Column and content make up the line, and so do lead and content.
    have lengths := congrArg List.length whole
    have column := contentColumn_add_content line
    rw [List.length_append] at lengths
    omega

/-- Behind a lead and a key stands the rest of a line. -/
theorem getElem?_behind_key (lead key rest : List Char) (place : Nat) :
    (lead ++ (key ++ rest))[lead.length + key.length + place]? = rest[place]? := by
  -- Lead and key take up as many places as they have characters.
  rw [← List.append_assoc, ← List.length_append, List.getElem?_append_right (Nat.le_add_right _ _),
    Nat.add_sub_cancel_left]

/-- Between the two stands the key. -/
theorem drop_take_key (lead key rest : List Char) :
    ((lead ++ (key ++ rest)).take (lead.length + key.length)).drop lead.length = key := by
  -- The lead is what the cut drops, and the key what it takes.
  rw [← List.append_assoc, ← List.length_append, List.take_left, List.drop_left]

/-- A key that is found on a line is spelled there. -/
theorem spells_of_matchKey {line : Line} {key : List Char} {number : Nat} {position : KeyPosition}
    (found : matchKey line key number = some position) : position.Spells key line := by
  obtain ⟨after, text, ends, rfl⟩ := matchKey_eq_some_iff.mp found
  obtain ⟨lead, leads, whole, column⟩ := exists_lead line
  have bounds := valueColumns_bounds (contentColumn line + key.length + 1) after
  -- The line is the lead, the key, a colon and the rest, and the columns count the parts before them.
  rw [← column] at bounds ⊢
  rw [text] at whole
  rw [whole]
  exact {
    text := drop_take_key lead key _
    width := rfl
    colon := getElem?_behind_key lead key _ 0
    behind := by
      rw [getElem?_behind_key lead key _ 1, List.getElem?_cons_succ, ← List.head?_eq_getElem?]
      exact ends
    lead := by
      rw [List.take_left]
      exact leads
    value := bounds.1
    ordered := bounds.2.1
    inside := by
      simp only [List.length_append, List.length_cons]
      omega }

section Search

variable {lines : List Line} {key : List Char} {position : KeyPosition}

/-- Whichever way a key is looked up, it stands where it is found. -/
theorem KeySearch.isKeyAt {search : KeySearch} (found : search.find lines key = some position) :
    IsKeyAt lines key position := by
  cases search with
  | topLevel => exact (locateKey_eq_some found).1
  | under parent =>
    -- The parent only says in which block the key is looked up.
    obtain ⟨header, -, found⟩ := Option.bind_eq_some_iff.mp found
    exact (locateKeyBelow_eq_some found).2.2
  | below header => exact (locateKeyBelow_eq_some found).2.2
  | child header => exact (locateChildKey_eq_some found).2.2.1
  | inSpan span => exact (locateKeyInSpan_eq_some found).2.2
  | inSpanUnder parent span =>
    obtain ⟨header, -, found⟩ := Option.bind_eq_some_iff.mp found
    exact (locateKeyBelow_eq_some found).2.2

/-- A key that is wanted at a column stands right behind the indentation of its line. -/
theorem exists_level_of_findSome? {block : List NumberedLine} {column : Nat}
    (found : block.findSome? (matchKeyAt column key) = some position) :
    ∃ line, (line, position.line) ∈ block ∧ indent line = position.keyStart := by
  -- The search only takes a key whose line is indented by the column.
  obtain ⟨⟨line, number⟩, member, matched⟩ := List.exists_of_findSome?_eq_some found
  obtain ⟨-, level, start, matched⟩ := matchKeyAt_eq_some matched
  obtain rfl := matchKey_line matched
  exact ⟨line, member, level.trans start.symm⟩

/-- So does a key that is looked up at the top level or among children. -/
theorem KeySearch.exists_level {search : KeySearch} (wants : search.wantsColumn = true)
    (found : search.find lines key = some position) :
    ∃ line, lines[position.line]? = some line ∧ indent line = position.keyStart := by
  cases search with
  | topLevel =>
    obtain ⟨line, member, level⟩ := exists_level_of_findSome? found
    exact ⟨line, List.mem_zipIdx_iff_getElem?.mp member, level⟩
  | child header =>
    simp only [KeySearch.find, locateChildKey] at found
    split at found
    · -- A block that says nothing has no children.
      exact absurd found (by simp)
    · obtain ⟨line, member, level⟩ := exists_level_of_findSome? found
      exact ⟨line, (mem_blockLines.mp member).2.2, level⟩
  | _ => exact absurd wants Bool.false_ne_true

end Search

/-- Whichever way a key is looked up, the position that is found is on a line of the text and spells the key there; a
search that wants a column finds it right behind the indentation. -/
theorem KeySearch.find_spells (search : KeySearch) (lines : List Line) (key : List Char) (position : KeyPosition)
    (found : search.find lines key = some position) :
    ∃ line, lines[position.line]? = some line ∧ position.Spells key line ∧
      (search.wantsColumn = true → ∀ c ∈ line.take position.keyStart, isBlank c = true) := by
  obtain ⟨line, at_, matched⟩ := KeySearch.isKeyAt found
  refine ⟨line, at_, spells_of_matchKey matched, ?_⟩
  intro wants
  obtain ⟨other, there, level⟩ := KeySearch.exists_level wants found
  obtain rfl : line = other := Option.some.inj (at_.symm.trans there)
  -- The key starts where the indentation ends.
  have blanks : line.take position.keyStart = line.takeWhile isBlank := by
    rw [← level]
    exact (List.prefix_iff_eq_take.mp (List.takeWhile_prefix _)).symm
  rw [blanks]
  exact fun c member => List.mem_takeWhile_imp member

/-- Lines in which a key stands behind two markers. -/
def markedLines : List Line := ["tags:", "  -  - name:  api # x"].map String.toList

/-- The key is found behind the markers, and its value between the blanks and the comment. -/
theorem markedLines_spelled :
    locateKeyUnder markedLines "name".toList "tags".toList = some ⟨1, 7, 11, 14, 17⟩ ∧
      KeyPosition.Spells "name".toList "  -  - name:  api # x".toList ⟨1, 7, 11, 14, 17⟩ := by
  have found : (KeySearch.under "tags".toList).find markedLines "name".toList = some ⟨1, 7, 11, 14, 17⟩ := by
    decide +kernel
  -- Where the key is found is computed, and that the columns spell it is the general statement.
  obtain ⟨line, at_, spelled, -⟩ := KeySearch.find_spells _ _ _ _ found
  obtain rfl : "  -  - name:  api # x".toList = line := Option.some.inj at_
  exact ⟨found, spelled⟩

end PlanLint
