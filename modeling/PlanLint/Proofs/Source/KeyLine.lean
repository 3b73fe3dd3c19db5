import PlanLint.Proofs.Source.Margin
import PlanLint.Proofs.Source.Naming

/-! A key of the top level is found on the first line that gives it at the least column of the text. -/

namespace PlanLint

/-- A line gives a key at a column: blanks up to the column, the key, a colon, and then a blank or the end. -/
def IsKeyLine (column : Nat) (key : List Char) (line : Line) : Prop :=
  ∃ blanks after, line = blanks ++ (key ++ ':' :: after) ∧ blanks.length = column ∧
    (∀ c ∈ blanks, isBlank c = true) ∧ after.head?.all isBlank = true

/-- A text that can be a key by itself: it does not start with a blank, a comment or an item marker. -/
structure IsKeyText (key : List Char) : Prop where
  first : key.head?.any (fun c => !isBlank c && c != '#') = true
  unmarked : ¬ ['-', ' '] <+: key

section Line

variable {column number : Nat} {key : List Char} {line : Line} {position : KeyPosition}

/-- Such a text starts with a character that is neither trimmed nor the sign of a comment. -/
theorem IsKeyText.exists_cons (named : IsKeyText key) :
    ∃ c rest, key = c :: rest ∧ isBlank c = false ∧ c ≠ '#' := by
  -- An empty key has no first character.
  have first := named.first
  cases key with
  | nil => exact absurd first (by simp)
  | cons c rest =>
    simp only [List.head?_cons, Option.any_some, Bool.and_eq_true, Bool.not_eq_true', bne_iff_ne] at first
    exact ⟨c, rest, rfl, first⟩

/-- A key with a colon behind it starts its line: nothing of it is trimmed. -/
theorem IsKeyText.trimStart_eq (named : IsKeyText key) (after : List Char) :
    trimStart (key ++ after) = key ++ after := by
  -- The first character stops the trimming.
  obtain ⟨c, rest, rfl, loud, -⟩ := named.exists_cons
  rw [List.cons_append, trimStart, List.dropWhile_cons_of_neg (by simp [loud])]

/-- It is not taken for a comment. -/
theorem IsKeyText.isSilent_eq (named : IsKeyText key) (after : List Char) : isSilent (key ++ after) = false := by
  -- Its first character is no sign of a comment.
  rw [isSilent, named.trimStart_eq]
  obtain ⟨c, rest, rfl, -, other⟩ := named.exists_cons
  simp [other]

/-- It is its own content: it does not start with a marker, and a lone dash has the colon behind it. -/
theorem IsKeyText.content_eq (named : IsKeyText key) (after : List Char) :
    content (key ++ ':' :: after) = key ++ ':' :: after := by
  rw [content, named.trimStart_eq]
  apply behindMarkers_of_unmarked
  rintro ⟨rest, marked⟩
  -- The dash would be the first character of the key, and the space the second one or else the colon.
  obtain ⟨c, later, rfl, -, -⟩ := named.exists_cons
  cases later with
  | nil => simp at marked
  | cons d later =>
    simp only [List.cons_append, List.cons.injEq] at marked
    exact named.unmarked ⟨later, by rw [← marked.1, ← marked.2.1]; rfl⟩

/-- A line that gives a key at a column says something, and is indented as far as that. -/
theorem IsKeyLine.spoken (gives : IsKeyLine column key line) (named : IsKeyText key) :
    isSilent line = false ∧ indent line = column := by
  -- The key stands behind blanks, and speaks by its first character.
  obtain ⟨blanks, after, rfl, rfl, blank, -⟩ := gives
  have margin := indent_margin blank (key ++ ':' :: after)
  have whole := indent_add_trimStart (key ++ ':' :: after)
  rw [named.trimStart_eq] at whole
  exact ⟨by rw [isSilent_margin blank, named.isSilent_eq], by omega⟩

/-- A content that starts where the indentation ends has no marker in front of it. -/
theorem content_eq_trimStart (level : contentColumn line = indent line) : content line = trimStart line := by
  obtain ⟨markers, -, split⟩ := exists_markers (trimStart line)
  have whole := indent_add_trimStart line
  have also := contentColumn_add_content line
  have lengths := congrArg List.length split
  rw [List.length_append] at lengths
  unfold content at also ⊢
  -- Nothing is left for the markers between the two.
  have unmarked : markers = [] := List.length_eq_zero_iff.mp (by omega)
  rw [unmarked, List.nil_append] at split
  exact split.symm

/-- A key that is found at a column is given there by its line. -/
theorem isKeyLine_of_matchKeyAt (found : matchKeyAt column key (line, number) = some position) :
    IsKeyLine column key line ∧ position.line = number ∧ position.keyStart = column ∧
      position.keyEnd = column + key.length := by
  obtain ⟨-, level, start, matched⟩ := matchKeyAt_eq_some found
  obtain ⟨after, text, ends, rfl⟩ := matchKey_eq_some_iff.mp matched
  dsimp only at level start text
  -- In front of the key stands the indentation, and no marker.
  refine ⟨⟨line.takeWhile isBlank, after, ?_, level, fun c member => List.mem_takeWhile_imp member, ends⟩, rfl,
    start, congrArg (· + key.length) start⟩
  rw [← text, content_eq_trimStart (start.trans level.symm)]
  exact List.takeWhile_append_dropWhile.symm

/-- A key is found at a column exactly on the lines that give it there. -/
theorem exists_matchKeyAt_iff (named : IsKeyText key) :
    (∃ position, matchKeyAt column key (line, number) = some position) ↔ IsKeyLine column key line := by
  constructor
  · rintro ⟨position, found⟩
    exact (isKeyLine_of_matchKeyAt found).1
  · intro gives
    obtain ⟨spoken, level⟩ := gives.spoken named
    obtain ⟨blanks, after, rfl, rfl, blank, ends⟩ := gives
    have text : content (blanks ++ (key ++ ':' :: after)) = key ++ ':' :: after := by
      rw [content_margin blank, named.content_eq]
    -- The content is all that stands behind the blanks, so it starts at the column.
    have start := contentColumn_add_content (blanks ++ (key ++ ':' :: after))
    simp only [text, List.length_append] at start
    have column : contentColumn (blanks ++ (key ++ ':' :: after)) = blanks.length := by omega
    obtain ⟨position, matched, same⟩ : ∃ position,
        matchKey (blanks ++ (key ++ ':' :: after)) key number = some position ∧ position.keyStart = blanks.length :=
      ⟨_, matchKey_eq_some_iff.mpr ⟨after, text, ends, rfl⟩, column⟩
    refine ⟨position, ?_⟩
    rw [matchKeyAt, if_neg (by simp [spoken, level]), matched, Option.filter_some, if_pos (by simp [same])]

end Line

/-- A line of a text gives a key at the top level. -/
def GivesTopKey (lines : List Line) (key : List Char) (number : Nat) : Prop :=
  ∃ line, lines[number]? = some line ∧ IsKeyLine (topIndent lines) key line

/-- The place of a key at the top level is the first one that gives it there. -/
structure FoundFirst (lines : List Line) (key : List Char) : Prop where
  /-- The top level is at the least column of the lines that say something. -/
  least : ∀ line ∈ lines, isSilent line = false → topIndent lines ≤ indent line
  reached : ∀ line ∈ lines, isSilent line = false →
    ∃ top ∈ lines, isSilent top = false ∧ indent top = topIndent lines
  /-- A line is the one that is found exactly if it gives the key and none before it does. -/
  found : ∀ number, (∃ position, locateKey lines key = some position ∧ position.line = number) ↔
    GivesTopKey lines key number ∧ ∀ earlier, GivesTopKey lines key earlier → number ≤ earlier
  columns : ∀ position, locateKey lines key = some position →
    position.keyStart = topIndent lines ∧ position.keyEnd = topIndent lines + key.length
  /-- Nothing is found exactly if no line gives the key. -/
  absent : locateKey lines key = none ↔ ∀ number, ¬ GivesTopKey lines key number

section TopLevel

variable {lines : List Line} {key : List Char}

/-- A numbered line of a text at which a key is found gives the key at the top level. -/
theorem givesTopKey_iff (named : IsKeyText key) {line : Line} {number : Nat} (at_ : lines[number]? = some line) :
    GivesTopKey lines key number ↔ ∃ position, matchKeyAt (topIndent lines) key (line, number) = some position := by
  -- There is one line with the number, the given one.
  rw [exists_matchKeyAt_iff named, GivesTopKey]
  simp [at_]

/-- A key is found on the first line that gives it at the top level. -/
theorem locateKey_eq_some_iff (named : IsKeyText key) {position : KeyPosition} :
    locateKey lines key = some position ↔
      (∃ line, lines[position.line]? = some line ∧
        matchKeyAt (topIndent lines) key (line, position.line) = some position) ∧
      ∀ earlier, GivesTopKey lines key earlier → position.line ≤ earlier := by
  -- A search in order settles on the first line on which it finds anything.
  rw [locateKey, (inOrder_zipIdx lines 0).findSome?_eq_some_iff
    fun line position found => (isKeyLine_of_matchKeyAt found).2.1]
  simp only [List.mem_zipIdx_iff_getElem?]
  -- Nothing is found on a line exactly if it does not give the key.
  constructor
  · rintro ⟨line, at_, found, nothing⟩
    refine ⟨⟨line, at_, found⟩, ?_⟩
    rintro earlier gives
    obtain ⟨other, there, -⟩ := id gives
    by_contra before
    obtain ⟨position, found⟩ := (givesTopKey_iff named there).mp gives
    have none := nothing (other, earlier) there (by omega)
    rw [found] at none
    exact absurd none (by simp)
  · rintro ⟨⟨line, at_, found⟩, first⟩
    refine ⟨line, at_, found, ?_⟩
    rintro ⟨other, number⟩ there before
    cases also : matchKeyAt (topIndent lines) key (other, number) with
    | none => rfl
    | some earlier => exact absurd (first number ((givesTopKey_iff named there).mpr ⟨earlier, also⟩)) (by omega)

/-- So the line that is found is the first of those that give the key. -/
theorem exists_locateKey_iff (named : IsKeyText key) (number : Nat) :
    (∃ position, locateKey lines key = some position ∧ position.line = number) ↔
      GivesTopKey lines key number ∧ ∀ earlier, GivesTopKey lines key earlier → number ≤ earlier := by
  -- The line of the position that is found is the least with such a position.
  constructor
  · rintro ⟨position, located, rfl⟩
    obtain ⟨⟨line, at_, found⟩, least⟩ := (locateKey_eq_some_iff named).mp located
    exact ⟨(givesTopKey_iff named at_).mpr ⟨position, found⟩, least⟩
  · rintro ⟨gives, least⟩
    obtain ⟨line, at_, -⟩ := id gives
    obtain ⟨position, found⟩ := (givesTopKey_iff named at_).mp gives
    obtain rfl := (isKeyLine_of_matchKeyAt found).2.1
    exact ⟨position, (locateKey_eq_some_iff named).mpr ⟨⟨line, at_, found⟩, least⟩, rfl⟩

/-- Nothing is found exactly if none gives it. -/
theorem locateKey_eq_none_iff (named : IsKeyText key) :
    locateKey lines key = none ↔ ∀ number, ¬ GivesTopKey lines key number := by
  constructor
  · -- The search has passed over every line, so it found nothing on any.
    intro nowhere number gives
    obtain ⟨line, at_, -⟩ := id gives
    obtain ⟨position, found⟩ := (givesTopKey_iff named at_).mp gives
    have none := List.findSome?_eq_none_iff.mp nowhere (line, number) (List.mem_zipIdx_iff_getElem?.mpr at_)
    rw [found] at none
    exact absurd none (by simp)
  · intro none
    cases located : locateKey lines key with
    | none => rfl
    | some position => exact absurd ((exists_locateKey_iff named _).mp ⟨position, located, rfl⟩).1 (none _)

end TopLevel

/-- A key of the top level is found on the first line that gives it there, at the least column of the text, and
nowhere if no line does. -/
theorem locateKey_finds_first (lines : List Line) (key : List Char) (named : IsKeyText key) :
    FoundFirst lines key where
  least _ := topIndent_le
  reached _ := exists_indent_eq_topIndent
  found := exists_locateKey_iff named
  columns position located := by
    -- The columns are those of the key on the line where it is found.
    obtain ⟨⟨line, -, found⟩, -⟩ := (locateKey_eq_some_iff named).mp located
    exact (isKeyLine_of_matchKeyAt found).2.2
  absent := locateKey_eq_none_iff named

/-- A text with a comment, a nested key, an item, a longer key and a text glued to the colon in front of the key of
the top level, which it gives twice. -/
def repeatedProject : List Line :=
  ["# project: none", "  releases:", "    project: nested", "  - project: item", "  projects: more",
    "  project:glued", "  project: shop", "  project: again"].map String.toList

/-- The first of the two is found. -/
theorem repeatedProject_found :
    IsKeyText "project".toList ∧
      locateKey repeatedProject "project".toList = some ⟨6, 2, 9, 11, 15⟩ ∧
      GivesTopKey repeatedProject "project".toList 6 ∧
      ∀ earlier, GivesTopKey repeatedProject "project".toList earlier → 6 ≤ earlier := by
  -- Where the key is found is computed, that no line before gives it is the general statement.
  have named : IsKeyText "project".toList := ⟨by decide, by decide⟩
  have located : locateKey repeatedProject "project".toList = some ⟨6, 2, 9, 11, 15⟩ := by decide +kernel
  exact ⟨named, located, ((locateKey_finds_first _ _ named).found 6).mp ⟨_, located, rfl⟩⟩

end PlanLint
