import PlanLint.Proofs.Source.Columns
import PlanLint.Proofs.Source.Respacing
import PlanLint.Proofs.Source.Surroundings

/-! Blanks put in front of every line of a text shift the columns of what is looked up in it, and change
nothing else. -/

namespace PlanLint

/-- The same line, its columns further to the right. -/
def KeyPosition.shift (width : Nat) (position : KeyPosition) : KeyPosition :=
  ⟨position.line, position.keyStart + width, position.keyEnd + width, position.valueStart + width,
    position.valueEnd + width⟩

/-- The lines of a text, each behind the same margin. -/
def withMargin (margin : List Char) (lines : List Line) : List Line := lines.map (margin ++ ·)

/-- A numbered line behind a margin. -/
def marginLine (margin : List Char) (line : NumberedLine) : NumberedLine := (margin ++ line.1, line.2)

/-- Some line that says something stands at the top level, if there is any. -/
theorem exists_indent_eq_topIndent {lines : List Line} {line : Line} (member : line ∈ lines)
    (spoken : isSilent line = false) :
    ∃ top ∈ lines, isSilent top = false ∧ indent top = topIndent lines := by
  have listed : indent line ∈ (lines.filter fun line => !isSilent line).map indent :=
    List.mem_map_of_mem (List.mem_filter.mpr ⟨member, by simp [spoken]⟩)
  -- The least column of some lines is the column of one of them.
  have least? := List.min?_eq_none_iff.not.mpr (List.ne_nil_of_mem listed)
  obtain ⟨column, least⟩ := Option.ne_none_iff_exists'.mp least?
  obtain ⟨top, kept, level⟩ := List.mem_map.mp (List.min?_mem least)
  obtain ⟨among, loud⟩ := List.mem_filter.mp kept
  exact ⟨top, among, by simpa using loud, by rw [level, topIndent, least, Option.getD_some]⟩

/-- No key stands at the top level of a text that says nothing. -/
theorem locateKey_eq_none_of_silent {lines : List Line} (silent : ∀ line ∈ lines, isSilent line = true)
    (key : List Char) : locateKey lines key = none := by
  -- A key is only looked for on lines that say something.
  refine List.findSome?_eq_none_iff.mpr ?_
  intro line member
  exact matchKeyAt_eq_none_of_silent _ (silent line.1 (List.fst_mem_of_mem_zipIdx member))

/-- Columns that are shifted alike are the same if they were. -/
theorem add_beq_add (column other width : Nat) : (column + width == other + width) = (column == other) := by
  -- Adding the same number to both can be undone.
  rw [Bool.eq_iff_iff, beq_iff_eq, beq_iff_eq, Nat.add_right_cancel_iff]

/-- The columns of a value follow the column that they are counted from. -/
theorem valueColumns_add (column width : Nat) (after : List Char) :
    valueColumns (column + width) after =
      ((valueColumns column after).1 + width, (valueColumns column after).2 + width) := by
  -- Both columns are counted from the one that is shifted.
  unfold valueColumns
  split
  · rfl
  · dsimp only
    rw [Prod.mk.injEq]
    omega

section Margin

variable {margin : List Char} (blank : ∀ c ∈ margin, isBlank c = true)
include blank

section Line

variable (line : Line)

/-- A margin is trimmed with the indentation. -/
theorem trimStart_margin :
    trimStart (margin ++ line) = trimStart line :=
  List.dropWhile_append_of_pos blank

/-- It adds to the indentation. -/
theorem indent_margin :
    indent (margin ++ line) = indent line + margin.length := by
  -- The blanks of the margin come before those of the line.
  rw [indent, List.takeWhile_append_of_pos blank, List.length_append, Nat.add_comm]
  rfl

/-- A line behind a margin says what it says without. -/
theorem isSilent_margin :
    isSilent (margin ++ line) = isSilent line := by
  -- Whether a line says something is asked behind its blanks.
  rw [isSilent, trimStart_margin blank]
  rfl

/-- It starts an item if it does without. -/
theorem isItem_margin :
    isItem (margin ++ line) = isItem line := by
  -- A dash is looked for behind the blanks of a line.
  rw [isItem, trimStart_margin blank]
  rfl

/-- It has the same content. -/
theorem content_margin :
    content (margin ++ line) = content line := by
  -- The content is taken from behind the blanks of a line.
  rw [content, trimStart_margin blank]
  rfl

/-- The content starts further to the right. -/
theorem contentColumn_margin :
    contentColumn (margin ++ line) = contentColumn line + margin.length := by
  -- The column counts what stands in front of the content, which is longer by the margin.
  have whole := contentColumn_add_content line
  have also := contentColumn_add_content (margin ++ line)
  rw [content_margin blank, List.length_append] at also
  omega

/-- A key on a line behind a margin is the same one, shifted. -/
theorem matchKey_margin (key : List Char) (number : Nat) :
    matchKey (margin ++ line) key number = (matchKey line key number).map (·.shift margin.length) := by
  -- The same columns are counted, from a content that starts further to the right.
  have columns : ∀ after, matchKey.found (margin ++ line) key number after =
      (matchKey.found line key number after).shift margin.length := by
    intro after
    simp only [matchKey.found, contentColumn_margin blank, Nat.add_right_comm _ margin.length, valueColumns_add]
    rfl
  unfold matchKey
  simp only [content_margin blank, columns]
  split
  · split
    · split <;> rfl
    · rfl
  · rfl

/-- A line behind a margin goes on with a block that is shifted as well. -/
theorem continuesBlock_margin (column : Nat) :
    continuesBlock (column + margin.length) (margin ++ line) = continuesBlock column line := by
  -- The depth of the line and the column of the block grow by the same.
  simp only [continuesBlock, indent_margin blank, isItem_margin blank, Nat.add_lt_add_iff_right, add_beq_add]

/-- What is left of a line behind a column when its end is trimmed does not depend on a margin. -/
theorem drop_trimEnd_margin (column : Nat) :
    (trimEnd (margin ++ line)).drop (column + margin.length) = (trimEnd line).drop column := by
  -- The margin is trimmed as well exactly if the line behind it is blank, and then nothing is left.
  have whole : trimEnd (margin ++ line) = if trimEnd line = [] then [] else margin ++ trimEnd line := by
    have empty : margin.reverse.dropWhile isBlank = [] :=
      List.dropWhile_eq_nil_iff.mpr fun c member => blank c (List.mem_reverse.mp member)
    simp only [trimEnd, List.reverse_append, List.dropWhile_append, List.reverse_eq_nil_iff, List.isEmpty_iff]
    split
    · exact congrArg List.reverse empty
    · rw [List.reverse_append, List.reverse_reverse]
  rw [whole]
  split
  · rename_i bare
    rw [bare, List.drop_nil, List.drop_nil]
  · rw [Nat.add_comm, ← List.drop_drop, List.drop_left]

end Line

section Block

/-- The body of a block has the same lines, each behind the margin. -/
theorem blockBody_margin (column : Nat) (below : List Line) :
    blockBody (column + margin.length) (withMargin margin below) =
      withMargin margin (blockBody column below) := by
  -- Each line is kept or cut off for what it is without the margin.
  simp only [blockBody, withMargin, List.takeWhile_map, ← List.map_reverse, List.dropWhile_map,
    Function.comp_def, isSilent_margin blank, continuesBlock_margin blank]

variable (lines : List Line) (header : KeyPosition)

/-- So has the body of a shifted header. -/
theorem blockBody_shift :
    blockBody (header.shift margin.length).keyStart ((withMargin margin lines).drop (header.line + 1)) =
      withMargin margin (blockBody header.keyStart (lines.drop (header.line + 1))) := by
  -- The lines below the header are the same in number.
  rw [withMargin, ← List.map_drop]
  exact blockBody_margin blank _ _

/-- The block of a shifted header ends where it did. -/
theorem blockEnd_margin :
    blockEnd (withMargin margin lines) (header.shift margin.length) = blockEnd lines header := by
  -- The body has as many lines as before.
  have body := blockBody_shift blank lines header
  simp only [blockEnd, KeyPosition.shift] at body ⊢
  rw [body, withMargin, List.length_map]

/-- It has the lines that it had, each behind the margin. -/
theorem blockLines_margin :
    blockLines (withMargin margin lines) (header.shift margin.length) =
      (blockLines lines header).map (marginLine margin) := by
  -- The numbers of the lines stay.
  have body := blockBody_shift blank lines header
  simp only [blockLines, KeyPosition.shift] at body ⊢
  rw [body, withMargin, List.zipIdx_map]
  rfl

end Block

section Numbered

variable (block : List NumberedLine)

/-- The first line with a key is the same one. -/
theorem findSome?_matchKey_margin (key : List Char) :
    (block.map (marginLine margin)).findSome? (fun line => matchKey line.1 key line.2) =
      (block.findSome? fun line => matchKey line.1 key line.2).map (·.shift margin.length) :=
  findSome?_map_of_moves (fun line => matchKey_margin blank line.1 key line.2) block

/-- A key stands at a column exactly if it stands at the shifted one behind the margin. -/
theorem matchKeyAt_margin (column : Nat) (key : List Char) (line : NumberedLine) :
    matchKeyAt (column + margin.length) key (marginLine margin line) =
      (matchKeyAt column key line).map (·.shift margin.length) := by
  -- The line is passed over, or its key is compared with a column that is shifted as it is.
  simp only [matchKeyAt, marginLine, isSilent_margin blank, indent_margin blank, bne, add_beq_add,
    matchKey_margin blank]
  split
  · rfl
  · rw [Option.filter_map]
    simp only [Function.comp_def, KeyPosition.shift, add_beq_add]

/-- The first line with a key at a column is the same one. -/
theorem findSome?_matchKeyAt_margin (column : Nat) (key : List Char) :
    (block.map (marginLine margin)).findSome? (matchKeyAt (column + margin.length) key) =
      (block.findSome? (matchKeyAt column key)).map (·.shift margin.length) :=
  findSome?_map_of_moves (matchKeyAt_margin blank column key) block

/-- The same lines start the items of a block. -/
theorem itemStarts_margin :
    itemStarts (block.map (marginLine margin)) = (itemStarts block).map (marginLine margin) := by
  have starts : startsItem ∘ marginLine margin = startsItem := by
    funext line
    simp only [Function.comp_apply, startsItem, marginLine, isSilent_margin blank, isItem_margin blank]
  unfold itemStarts
  rw [List.filter_map, starts]
  cases block.filter startsItem with
  | nil => rfl
  | cons first rest =>
    -- All of them are shifted alike, so the same ones are at the column of the first.
    simp only [List.map_cons, List.filter_map, Function.comp_def, marginLine, indent_margin blank, add_beq_add]

/-- The same line is the last that says something. -/
theorem lastSpoken_margin (first stop : Nat) :
    lastSpoken (block.map (marginLine margin)) first stop = lastSpoken block first stop := by
  -- The lines are picked by their numbers and by whether they say something.
  have same : (block.map (marginLine margin)).filter
      (fun line => first < line.2 && line.2 < stop && !isSilent line.1) =
      (block.filter fun line => first < line.2 && line.2 < stop && !isSilent line.1).map
        (marginLine margin) := by
    rw [List.filter_map]
    refine congrArg _ (List.filter_congr fun line _ => ?_)
    exact congrArg (fun silent => first < line.2 && line.2 < stop && !silent) (isSilent_margin blank line.1)
  unfold lastSpoken
  rw [same, List.getLast?_map]
  cases (block.filter fun line => first < line.2 && line.2 < stop && !isSilent line.1).getLast? <;> rfl

end Numbered

section LookUp

variable (lines : List Line) (header : KeyPosition)

/-- The anchor of an item is shifted with its line. -/
theorem itemAnchor_margin (line : NumberedLine) :
    itemAnchor (marginLine margin line) = (itemAnchor line).shift margin.length := by
  -- The anchor is counted from the indentation of its line.
  have behind : indent line.1 + margin.length + 1 = indent line.1 + 1 + margin.length := by omega
  simp only [itemAnchor, marginLine, indent_margin blank, behind, drop_trimEnd_margin blank, valueColumns_add]
  rfl

/-- The anchor of the item with an index is shifted. -/
theorem blockItemAnchor_margin (index : Int) :
    blockItemAnchor (withMargin margin lines) (header.shift margin.length) index =
      (blockItemAnchor lines header index).map (·.shift margin.length) := by
  -- A negative index gives nothing in either text.
  unfold blockItemAnchor
  split
  · rfl
  · rw [blockLines_margin blank, itemStarts_margin blank, List.getElem?_map, Option.map_map, Option.map_map]
    exact congrArg (Option.map · _) (funext (itemAnchor_margin blank))

/-- Items keep their lines. -/
theorem blockItemSpans_margin :
    blockItemSpans (withMargin margin lines) (header.shift margin.length) = blockItemSpans lines header := by
  -- The spans are made of the numbers of the lines, which the margin leaves alone.
  have numbers : ((itemStarts (blockLines lines header)).map (marginLine margin)).map (·.2) =
      (itemStarts (blockLines lines header)).map (·.2) := by
    rw [List.map_map]
    rfl
  simp only [blockItemSpans, blockLines_margin blank, blockEnd_margin blank, itemStarts_margin blank, numbers]
  exact spansFrom_congr (lastSpoken_margin blank _) _ _

/-- A key below a header is shifted. -/
theorem locateKeyBelow_margin (key : List Char) :
    locateKeyBelow (withMargin margin lines) key (header.shift margin.length) =
      (locateKeyBelow lines key header).map (·.shift margin.length) := by
  -- The search goes through the lines of the block, which are those with the margin.
  rw [locateKeyBelow, blockLines_margin blank]
  exact findSome?_matchKey_margin blank _ key

/-- So is a child of a header. -/
theorem locateChildKey_margin (key : List Char) :
    locateChildKey (withMargin margin lines) key (header.shift margin.length) =
      (locateChildKey lines key header).map (·.shift margin.length) := by
  -- The column of the children is that of the first line that says something, in both.
  simp only [locateChildKey, blockLines_margin blank, List.find?_map, Function.comp_def, marginLine,
    isSilent_margin blank]
  cases (blockLines lines header).find? fun line => !isSilent line.1 with
  | none => rfl
  | some first =>
    simp only [Option.map_some, marginLine, indent_margin blank]
    exact findSome?_matchKeyAt_margin blank _ _ key

/-- The top level is shifted, unless nothing is said at all. -/
theorem topIndent_margin {line : Line} (member : line ∈ lines) (spoken : isSilent line = false) :
    topIndent (withMargin margin lines) = topIndent lines + margin.length := by
  -- A line at the top level is the least indented one behind the margin as well.
  obtain ⟨top, among, loud, level⟩ := exists_indent_eq_topIndent member spoken
  rw [← level, ← indent_margin blank]
  refine topIndent_eq (List.mem_map_of_mem among) (by rw [isSilent_margin blank, loud]) ?_
  intro other listed said
  obtain ⟨text, there, rfl⟩ := List.mem_map.mp listed
  rw [isSilent_margin blank] at said
  rw [indent_margin blank, indent_margin blank, level]
  exact Nat.add_le_add_right (topIndent_le there said) _

/-- A key of the top level is shifted. -/
theorem locateKey_margin (key : List Char) :
    locateKey (withMargin margin lines) key = (locateKey lines key).map (·.shift margin.length) := by
  by_cases said : ∃ line ∈ lines, isSilent line = false
  · obtain ⟨line, member, spoken⟩ := said
    have numbered : (withMargin margin lines).zipIdx = lines.zipIdx.map (marginLine margin) := by
      rw [withMargin, List.zipIdx_map]
      rfl
    rw [locateKey, topIndent_margin blank lines member spoken, numbered]
    exact findSome?_matchKeyAt_margin blank _ _ key
  · -- Without a line that says something there is no top level, and no key at it.
    have silent : ∀ line ∈ lines, isSilent line = true := by simpa using said
    have also : ∀ line ∈ withMargin margin lines, isSilent line = true := by
      intro line listed
      obtain ⟨text, there, rfl⟩ := List.mem_map.mp listed
      rw [isSilent_margin blank, silent text there]
    rw [locateKey_eq_none_of_silent silent, locateKey_eq_none_of_silent also]
    rfl

/-- So is a key in a span. -/
theorem locateKeyInSpan_margin (key : List Char) (span : LineSpan) :
    locateKeyInSpan (withMargin margin lines) key span =
      (locateKeyInSpan lines key span).map (·.shift margin.length) := by
  -- The span is one of line numbers, which stay.
  have within : spanLines (withMargin margin lines) span = (spanLines lines span).map (marginLine margin) := by
    rw [spanLines, withMargin, List.zipIdx_map, ← List.map_drop, ← List.map_take]
    rfl
  rw [locateKeyInSpan, within]
  exact findSome?_matchKey_margin blank _ key

end LookUp

end Margin

/-- Every look-up in a text finds what it finds in another one, at positions that a function moves. The
items of a sequence keep their lines. -/
structure FoundAlike (move : KeyPosition → KeyPosition) (lines moved : List Line) : Prop where
  key : ∀ key, locateKey moved key = (locateKey lines key).map move
  keyUnder : ∀ key parent, locateKeyUnder moved key parent = (locateKeyUnder lines key parent).map move
  keyBelow : ∀ key header, locateKeyBelow moved key (move header) = (locateKeyBelow lines key header).map move
  childKey : ∀ key header, locateChildKey moved key (move header) = (locateChildKey lines key header).map move
  keyInSpan : ∀ key span, locateKeyInSpan moved key span = (locateKeyInSpan lines key span).map move
  keyInSpanUnder : ∀ key parent span,
    locateKeyInSpanUnder moved key parent span = (locateKeyInSpanUnder lines key parent span).map move
  arrayItem : ∀ key index, locateArrayItem moved key index = (locateArrayItem lines key index).map move
  itemAnchor : ∀ header index,
    blockItemAnchor moved (move header) index = (blockItemAnchor lines header index).map move
  blockSpans : ∀ header, blockItemSpans moved (move header) = blockItemSpans lines header
  spans : ∀ key, itemSpans moved key = itemSpans lines key

/-- Behind a margin of blanks everything is found where it was found without, its columns shifted by the
width of the margin. -/
theorem foundAlike_withMargin {margin : List Char} (blank : ∀ c ∈ margin, isBlank c = true)
    (lines : List Line) : FoundAlike (·.shift margin.length) lines (withMargin margin lines) where
  key := locateKey_margin blank lines
  keyUnder key parent := by
    -- The key is looked up below its parent, which is shifted before it.
    rw [locateKeyUnder, locateKey_margin blank, locateKeyUnder]
    cases locateKey lines parent with
    | none => rfl
    | some header => exact locateKeyBelow_margin blank lines header key
  keyBelow key header := locateKeyBelow_margin blank lines header key
  childKey key header := locateChildKey_margin blank lines header key
  keyInSpan := locateKeyInSpan_margin blank lines
  keyInSpanUnder key parent span := by
    rw [locateKeyInSpanUnder, locateKeyInSpan_margin blank, locateKeyInSpanUnder]
    cases locateKeyInSpan lines parent span with
    | none => rfl
    | some header => exact locateKeyBelow_margin blank lines header key
  arrayItem key index := by
    rw [locateArrayItem, locateKey_margin blank, locateArrayItem]
    cases locateKey lines key with
    | none => rfl
    | some header => exact blockItemAnchor_margin blank lines header index
  itemAnchor := blockItemAnchor_margin blank lines
  blockSpans := blockItemSpans_margin blank lines
  spans key := by
    rw [itemSpans, locateKey_margin blank, itemSpans]
    cases locateKey lines key with
    | none => rfl
    | some header => exact blockItemSpans_margin blank lines header

/-- A plan with a comment, an empty line and an item that is a lone dash. -/
def dashedLines : List Line :=
  ["project: shop", "# two of them", "releases:", "- name: api # first", "", "-"].map String.toList

/-- Behind a tab and a space the sequence and its items are found two columns further to the right. -/
theorem dashedLines_foundAlike :
    (∀ c ∈ ['\t', ' '], isBlank c = true) ∧
      FoundAlike (·.shift 2) dashedLines (withMargin ['\t', ' '] dashedLines) ∧
      locateKey (withMargin ['\t', ' '] dashedLines) "releases".toList = some ⟨2, 2, 10, 11, 11⟩ ∧
      locateArrayItem (withMargin ['\t', ' '] dashedLines) "releases".toList 0 = some ⟨3, 2, 3, 4, 13⟩ ∧
      locateArrayItem (withMargin ['\t', ' '] dashedLines) "releases".toList 1 = some ⟨5, 2, 3, 3, 3⟩ := by
  -- That all look-ups are shifted is the general statement, and where they lead is computed.
  have blank : ∀ c ∈ ['\t', ' '], isBlank c = true :=
    List.forall_mem_cons.mpr ⟨by decide, List.forall_mem_singleton.mpr (by decide)⟩
  refine ⟨blank, foundAlike_withMargin blank dashedLines, ?_, ?_, ?_⟩ <;> decide +kernel

end PlanLint
