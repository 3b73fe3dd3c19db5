import PlanLint.Proofs.Source.Lookup
import Mathlib.Data.List.DropRight

/-! The columns of a position are on its line, the key before the value. -/

namespace PlanLint

/-- A text up to its comment is the beginning of the text. -/
theorem beforeComment_prefix (previous : Char) (text : List Char) : beforeComment previous text <+: text := by
  induction text generalizing previous with
  | nil => exact List.prefix_rfl
  | cons c rest ih =>
    -- The comment starts here, or the rest is cut somewhere behind this character.
    rw [beforeComment]
    split
    · exact List.nil_prefix
    · exact List.cons_prefix_cons.mpr ⟨rfl, ih c⟩

/-- A text that has a character is split by its first occurrence. -/
theorem takeWhile_append_cons_drop {c : Char} {text : List Char} (there : c ∈ text) :
    text.takeWhile (· != c) ++ c :: (text.dropWhile (· != c)).drop 1 = text := by
  induction text with
  | nil => simp at there
  | cons first rest ih =>
    by_cases same : first = c
    · subst same
      simp
    · -- The first character is another one, so the occurrence is in the rest.
      have later : c ∈ rest := by simpa [Ne.symm same] using there
      simpa [same] using ih later

/-- A value without its comment is the beginning of the text. -/
theorem uncommented_prefix (text : List Char) : uncommented text <+: text := by
  cases text with
  | nil => exact List.prefix_rfl
  | cons c rest =>
    rw [uncommented]
    split
    · exact List.nil_prefix
    · split
      · rename_i quoted
        -- The quoted part is kept with both of its quotes, and only what follows it is cut.
        have there : c ∈ rest := by simpa using (Bool.and_eq_true_iff.mp quoted).2
        have cut := beforeComment_prefix c ((rest.dropWhile (· != c)).drop 1)
        rw [List.cons_append]
        conv_rhs => rw [← takeWhile_append_cons_drop there]
        exact List.cons_prefix_cons.mpr ⟨rfl, List.prefix_append_right_inj _ |>.mpr
          (List.cons_prefix_cons.mpr ⟨rfl, cut⟩)⟩
      · exact List.cons_prefix_cons.mpr ⟨rfl, beforeComment_prefix c rest⟩

/-- The value behind a colon or a dash is the beginning of what stands there behind the blanks. -/
theorem inlineValue_prefix (after : List Char) : inlineValue after <+: trimStart after := by
  -- First a comment is cut off, then the blanks in front of it.
  have cut := uncommented_prefix (trimStart after)
  exact (List.rdropWhile_prefix _ _).trans cut

/-- The columns of a value are in order, and within the text that they are read from. -/
theorem valueColumns_bounds (column : Nat) (after : List Char) :
    column ≤ (valueColumns column after).1 ∧
      (valueColumns column after).1 ≤ (valueColumns column after).2 ∧
      (valueColumns column after).2 ≤ column + after.length := by
  have begins := inlineValue_prefix after
  have shorter := begins.length_le
  -- What stands behind the blanks is the text less the blanks.
  have whole : (after.takeWhile isBlank).length + (trimStart after).length = after.length :=
    indent_add_trimStart after
  unfold valueColumns
  split
  · simp
  · dsimp only
    omega

/-- A key is found on a line exactly if the content is the key, a colon, and a text that starts with a
blank or is empty; the columns of the value are read from that text. -/
theorem matchKey_eq_some_iff {line : Line} {key : List Char} {number : Nat} {position : KeyPosition} :
    matchKey line key number = some position ↔
      ∃ after, content line = key ++ ':' :: after ∧ after.head?.all isBlank = true ∧
        position = ⟨number, contentColumn line, contentColumn line + key.length,
          (valueColumns (contentColumn line + key.length + 1) after).1,
          (valueColumns (contentColumn line + key.length + 1) after).2⟩ := by
  have behind : ∀ after, (key ++ ':' :: after).drop (key.length + 1) = after := by
    intro after
    rw [← List.drop_drop, List.drop_left, List.drop_succ_cons, List.drop_zero]
  constructor
  · intro found
    obtain ⟨⟨after, same⟩, -, -⟩ := matchKey_eq_some found
    rw [List.append_assoc, List.singleton_append] at same
    unfold matchKey at found
    simp only [← same, behind] at found
    -- Both ways to succeed give the same columns.
    split at found
    · split at found
      · split at found
        · rename_i blank
          exact ⟨_, same.symm, by simpa using blank, (Option.some.inj found).symm⟩
        · simp at found
      · exact ⟨_, same.symm, rfl, (Option.some.inj found).symm⟩
    · simp at found
  · rintro ⟨after, same, ends, rfl⟩
    -- The content starts with the key and a colon, and the test of the next character succeeds.
    have starts : (key ++ [':']).isPrefixOf (key ++ ':' :: after) = true := by
      rw [List.isPrefixOf_iff_prefix]
      exact ⟨after, by simp⟩
    unfold matchKey
    simp only [same, behind, starts, if_true]
    cases after with
    | nil => rfl
    | cons c rest =>
      have blank : isBlank c = true := by simpa using ends
      exact if_pos blank

/-- The columns of a position are columns of a line, its key and its value each in order. -/
structure KeyPosition.Fits (line : Line) (position : KeyPosition) : Prop where
  key : position.keyStart ≤ position.keyEnd
  keyStop : position.keyEnd ≤ line.length
  value : position.valueStart ≤ position.valueEnd
  valueStop : position.valueEnd ≤ line.length

/-- The content of a line and the column at which it starts make up the line. -/
theorem contentColumn_add_content (line : Line) :
    contentColumn line + (content line).length = line.length := by
  -- Indentation and markers are what stands in front of the content.
  have whole := indent_add_trimStart line
  have shorter := behindMarkers_length_le (trimStart line)
  unfold contentColumn content
  omega

/-- A key fits the line that it is found on. -/
theorem fits_of_matchKey {line : Line} {key : List Char} {number : Nat} {position : KeyPosition}
    (found : matchKey line key number = some position) : position.Fits line := by
  obtain ⟨after, text, -, rfl⟩ := matchKey_eq_some_iff.mp found
  have bounds := valueColumns_bounds (contentColumn line + key.length + 1) after
  -- The key, the colon and the text behind them are the content, which ends with the line.
  have whole := contentColumn_add_content line
  rw [text, List.length_append, List.length_cons] at whole
  refine ⟨?_, ?_, bounds.2.1, ?_⟩
  · dsimp only
    omega
  · dsimp only
    omega
  · dsimp only
    omega

/-- The dash of an item and the value behind it fit the line of the item. -/
theorem fits_itemAnchor {line : NumberedLine} (item : isItem line.1 = true) :
    (itemAnchor line).Fits line.1 := by
  have bounds := valueColumns_bounds (indent line.1 + 1) ((trimEnd line.1).drop (indent line.1 + 1))
  have shorter : (trimEnd line.1).length ≤ line.1.length := (List.rdropWhile_prefix _ _).length_le
  -- There is a dash behind the indentation, so the column behind the dash is still on the line.
  have whole := indent_add_trimStart line.1
  have dash : 0 < (trimStart line.1).length := by
    refine List.length_pos_of_ne_nil ?_
    intro empty
    simp [isItem, empty] at item
  rw [List.length_drop] at bounds
  unfold itemAnchor
  refine ⟨Nat.le_succ _, ?_, bounds.2.1, ?_⟩
  · dsimp only
    omega
  · dsimp only
    omega

/-- A position is on a line of a text and fits it. -/
def KeyPosition.FitsIn (lines : List Line) (position : KeyPosition) : Prop :=
  ∃ line, lines[position.line]? = some line ∧ position.Fits line

/-- A key that stands in a text fits it. -/
theorem IsKeyAt.fitsIn {lines : List Line} {key : List Char} {position : KeyPosition}
    (here : IsKeyAt lines key position) : position.FitsIn lines := by
  -- The columns are those at which the key was found on its line.
  obtain ⟨line, at_, matched⟩ := here
  exact ⟨line, at_, fits_of_matchKey matched⟩

/-- The anchor of an item fits the text. -/
theorem fitsIn_of_blockItemAnchor {lines : List Line} {header anchor : KeyPosition} {index : Int}
    (found : blockItemAnchor lines header index = some anchor) : anchor.FitsIn lines := by
  unfold blockItemAnchor at found
  split at found
  · simp at found
  · obtain ⟨⟨line, number⟩, started, rfl⟩ := Option.map_eq_some_iff.mp found
    -- The anchor is that of an item line of the block, and the block is a part of the text.
    obtain ⟨inBlock, starts⟩ := mem_itemStarts (List.mem_of_getElem? started)
    simp only [startsItem, Bool.and_eq_true] at starts
    exact ⟨line, (mem_blockLines.mp inBlock).2.2, @fits_itemAnchor (line, number) starts.2⟩

end PlanLint
