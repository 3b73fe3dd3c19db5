import PlanLint.Source.Range
import PlanLint.Proofs.Source.Items
import PlanLint.Proofs.Source.Key

/-! What is looked up in a block or in an item is found inside it. -/

namespace PlanLint

/-- The range of a line that is there is that line. -/
theorem lineRange_eq {lines : List Line} {number : Nat} {line : Line} (found : lines[number]? = some line) :
    lineRange lines number = .onLine number 0 line.length := by
  -- A number that counts lines is not negative.
  have present : ¬ (number : Int) < 0 := by omega
  simp only [lineRange, if_neg present, Int.toNat_natCast, found]

/-- A position is that of a key on its line of a text. -/
def IsKeyAt (lines : List Line) (key : List Char) (position : KeyPosition) : Prop :=
  ∃ line, lines[position.line]? = some line ∧ matchKey line key position.line = some position

/-- A key matched on a numbered line of a text stands there. -/
theorem isKeyAt_of_matchKey {lines : List Line} {key : List Char} {line : Line} {number : Nat}
    {position : KeyPosition} (at_ : lines[number]? = some line)
    (found : matchKey line key number = some position) :
    position.line = number ∧ IsKeyAt lines key position := by
  -- The position carries the number of the line.
  obtain rfl := matchKey_line found
  exact ⟨rfl, line, at_, found⟩

/-- A key that does not look like a comment stands on a line that says something. -/
theorem IsKeyAt.spoken {lines : List Line} {key : List Char} {position : KeyPosition}
    (here : IsKeyAt lines key position) (named : key.head? ≠ some '#') :
    ∀ line, lines[position.line]? = some line → isSilent line = false := by
  -- There is one line with the number, the one with the key.
  obtain ⟨line, at_, matched⟩ := here
  intro other same
  rw [at_, Option.some.injEq] at same
  exact same ▸ isSilent_of_matchKey named matched

/-- A key stands on only one place of a line. -/
theorem IsKeyAt.eq_of_line_eq {lines : List Line} {key : List Char} {position other : KeyPosition}
    (here : IsKeyAt lines key position) (also : IsKeyAt lines key other) (same : position.line = other.line) :
    position = other := by
  -- The search on one line gives one position.
  obtain ⟨line, at_, matched⟩ := here
  obtain ⟨text, there, found⟩ := also
  rw [same, there, Option.some.injEq] at at_
  subst at_
  rw [same, found, Option.some.injEq] at matched
  exact matched.symm

/-- A key that is wanted at a column is only found there, on a line that says something. -/
theorem matchKeyAt_eq_some {column : Nat} {key : List Char} {line : NumberedLine} {position : KeyPosition}
    (found : matchKeyAt column key line = some position) :
    isSilent line.1 = false ∧ indent line.1 = column ∧ position.keyStart = column ∧
      matchKey line.1 key line.2 = some position := by
  -- Silent lines and lines at other columns are not looked at.
  unfold matchKeyAt at found
  split at found
  · simp at found
  · rename_i wanted
    simp only [Bool.or_eq_true, bne_iff_ne, ne_eq, not_or, Bool.not_eq_true, Decidable.not_not] at wanted
    obtain ⟨matched, same⟩ := Option.filter_eq_some_iff.mp found
    exact ⟨wanted.1, wanted.2, by simpa using same, matched⟩

/-- A section's key stands at the column of the top level. -/
theorem locateKey_eq_some {lines : List Line} {key : List Char} {header : KeyPosition}
    (found : locateKey lines key = some header) :
    IsKeyAt lines key header ∧ header.keyStart = topIndent lines := by
  -- The search looks at each line for the key at the column of the top level.
  obtain ⟨⟨line, number⟩, member, matched⟩ := List.exists_of_findSome?_eq_some found
  obtain ⟨-, -, start, matched⟩ := matchKeyAt_eq_some matched
  exact ⟨(isKeyAt_of_matchKey (List.mem_zipIdx_iff_getElem?.mp member) matched).2, start⟩

/-- The lines of a span are those from its first to its last, as far as there are any. -/
theorem mem_spanLines {lines : List Line} {span : LineSpan} {line : Line} {number : Nat} :
    (line, number) ∈ spanLines lines span ↔
      span.first ≤ number ∧ number ≤ span.last ∧ lines[number]? = some line := by
  -- A place in the span is a number counted from the first line of the span.
  rw [spanLines, List.mem_iff_getElem?]
  simp only [List.getElem?_take, List.getElem?_drop, List.getElem?_zipIdx, Nat.zero_add,
    Option.ite_none_right_eq_some, Option.map_eq_some_iff, Prod.mk.injEq]
  constructor
  · intro held
    obtain ⟨place, inside, text, found, rfl, rfl⟩ := held
    exact ⟨by omega, by omega, found⟩
  · intro held
    obtain ⟨above, below, found⟩ := held
    refine ⟨number - span.first, by omega, line, ?_, rfl, by omega⟩
    rwa [Nat.add_sub_cancel' above]

/-- The lines of a span are in order. -/
theorem inOrder_spanLines (lines : List Line) (span : LineSpan) : InOrder (spanLines lines span) :=
  ((inOrder_zipIdx lines 0).sublist (List.drop_sublist _ _)).sublist (List.take_sublist _ _)

/-- A search for a key in ordered lines of a text gives its place on the first of them that it stands on. -/
theorem InOrder.findSome?_matchKey_eq_some_iff {block : List NumberedLine} (ordered : InOrder block)
    {lines : List Line} {within : Nat → Prop}
    (member : ∀ line number, (line, number) ∈ block ↔ within number ∧ lines[number]? = some line)
    {key : List Char} {position : KeyPosition} :
    block.findSome? (fun line => matchKey line.1 key line.2) = some position ↔
      IsKeyAt lines key position ∧ within position.line ∧
        ∀ earlier, IsKeyAt lines key earlier → within earlier.line → position.line ≤ earlier.line := by
  rw [ordered.findSome?_eq_some_iff fun _ _ found => matchKey_line found]
  -- No line before the position gives the key: a place before it would be on such a line.
  constructor
  · rintro ⟨line, among, matched, nothing⟩
    obtain ⟨inside, at_⟩ := (member line position.line).mp among
    refine ⟨⟨line, at_, matched⟩, inside, ?_⟩
    rintro earlier ⟨other, there, found⟩ also
    by_contra before
    have none := nothing (other, earlier.line) ((member other earlier.line).mpr ⟨also, there⟩) (by omega)
    rw [found] at none
    exact absurd none (by simp)
  · rintro ⟨⟨line, at_, matched⟩, inside, nothing⟩
    refine ⟨line, (member line position.line).mpr ⟨inside, at_⟩, matched, ?_⟩
    rintro ⟨other, number⟩ among before
    cases found : matchKey other key number with
    | none => rfl
    | some earlier =>
      obtain ⟨also, there⟩ := (member other number).mp among
      obtain ⟨rfl, here⟩ := isKeyAt_of_matchKey there found
      exact absurd (nothing earlier here also) (by omega)

/-- It gives nothing exactly if the key stands on none of them. -/
theorem findSome?_matchKey_eq_none_iff {block : List NumberedLine} {lines : List Line} {within : Nat → Prop}
    (member : ∀ line number, (line, number) ∈ block ↔ within number ∧ lines[number]? = some line)
    {key : List Char} :
    block.findSome? (fun line => matchKey line.1 key line.2) = none ↔
      ∀ position, IsKeyAt lines key position → ¬ within position.line := by
  -- The positions of the key are those of the lines that are looked at.
  rw [List.findSome?_eq_none_iff]
  constructor
  · rintro nothing position ⟨line, at_, matched⟩ inside
    have none := nothing (line, position.line) ((member line position.line).mpr ⟨inside, at_⟩)
    rw [matched] at none
    exact absurd none (by simp)
  · rintro nowhere ⟨line, number⟩ among
    obtain ⟨inside, at_⟩ := (member line number).mp among
    cases found : matchKey line key number with
    | none => rfl
    | some position =>
      obtain ⟨rfl, here⟩ := isKeyAt_of_matchKey at_ found
      exact absurd inside (nowhere position here)

/-- The place of a key in a span is the first one there. -/
theorem locateKeyInSpan_eq_some_iff {lines : List Line} {key : List Char} {span : LineSpan}
    {position : KeyPosition} :
    locateKeyInSpan lines key span = some position ↔
      IsKeyAt lines key position ∧ span.first ≤ position.line ∧ position.line ≤ span.last ∧
        ∀ earlier, IsKeyAt lines key earlier → span.first ≤ earlier.line → position.line ≤ earlier.line := by
  have member : ∀ line number, (line, number) ∈ spanLines lines span ↔
      (span.first ≤ number ∧ number ≤ span.last) ∧ lines[number]? = some line := by
    intro line number
    rw [mem_spanLines, and_assoc]
  rw [locateKeyInSpan, (inOrder_spanLines lines span).findSome?_matchKey_eq_some_iff member, and_assoc]
  -- A place behind the span is not before the position, so only those from its first line on count.
  constructor
  · rintro ⟨here, above, below, first⟩
    refine ⟨here, above, below, ?_⟩
    intro earlier also inside
    by_contra before
    exact before (first earlier also ⟨inside, by omega⟩)
  · rintro ⟨here, above, below, first⟩
    exact ⟨here, above, below, fun earlier also inside => first earlier also inside.1⟩

/-- A key that is looked up in a span of lines is found in it. -/
theorem locateKeyInSpan_eq_some {lines : List Line} {key : List Char} {span : LineSpan}
    {position : KeyPosition} (found : locateKeyInSpan lines key span = some position) :
    span.first ≤ position.line ∧ position.line ≤ span.last ∧ IsKeyAt lines key position := by
  -- The rest of what is known, that it is the first one, is left out.
  obtain ⟨here, above, below, -⟩ := locateKeyInSpan_eq_some_iff.mp found
  exact ⟨above, below, here⟩

/-- If a key stands in a span, its value is the one that is read from the span exactly if the key is
the one that is found there. -/
theorem fieldValueRange_eq_iff {lines : List Line} {key : List Char} {span : LineSpan} {own : KeyPosition}
    (here : IsKeyAt lines key own) (above : span.first ≤ own.line) (below : own.line ≤ span.last)
    (fallback : TextRange) :
    fieldValueRange lines (some span) key fallback = own.valueRange ↔
      locateKeyInSpan lines key span = some own := by
  rw [fieldValueRange, Option.bind_some]
  cases located : locateKeyInSpan lines key span with
  | none =>
    -- The key is in the span, so some place is found.
    obtain ⟨line, at_, matched⟩ := here
    have none := List.findSome?_eq_none_iff.mp located _ (mem_spanLines.mpr ⟨above, below, at_⟩)
    rw [matched] at none
    exact absurd none (by simp)
  | some found =>
    rw [Option.some.injEq]
    constructor
    · intro same
      -- Equal ranges are on one line, where the key stands only once.
      obtain ⟨there, -⟩ := locateKeyInSpan_eq_some_iff.mp located
      exact there.eq_of_line_eq here (congrArg (·.start.line) same)
    · rintro rfl
      rfl

/-- A key that is looked up below a header is found in the block of the header. -/
theorem locateKeyBelow_eq_some {lines : List Line} {key : List Char} {header position : KeyPosition}
    (found : locateKeyBelow lines key header = some position) :
    header.line < position.line ∧ position.line < blockEnd lines header ∧ IsKeyAt lines key position := by
  -- The search looks at the lines of the block.
  obtain ⟨⟨line, number⟩, member, matched⟩ := List.exists_of_findSome?_eq_some found
  obtain ⟨below, inside, at_⟩ := mem_blockLines.mp member
  obtain ⟨rfl, here⟩ := isKeyAt_of_matchKey at_ matched
  exact ⟨below, inside, here⟩

/-- A key that stands in the block of a header, on a line that says something, opens a block of its
own that ends no later. -/
theorem blockEnd_le_of_isKeyAt {lines : List Line} {key : List Char} {header position : KeyPosition}
    (below : header.line < position.line) (inside : position.line < blockEnd lines header)
    (here : IsKeyAt lines key position)
    (spoken : ∀ line, lines[position.line]? = some line → isSilent line = false) :
    header.keyStart < position.keyStart ∧ blockEnd lines position ≤ blockEnd lines header := by
  -- The line of the key goes on with the block, so the key stands deeper than its header.
  obtain ⟨line, at_, matched⟩ := here
  have continues := continuesBlock_of_lt_blockEnd below inside at_ (spoken line at_)
  have deeper := lt_keyStart_of_continuesBlock continues matched
  exact ⟨deeper, blockEnd_le_of_nested (by omega) (by omega) inside⟩

/-- A child of a header stands in its block, deeper than the header, and its own block ends no
later. -/
theorem locateChildKey_eq_some {lines : List Line} {key : List Char} {header position : KeyPosition}
    (found : locateChildKey lines key header = some position) :
    header.line < position.line ∧ position.line < blockEnd lines header ∧ IsKeyAt lines key position ∧
      header.keyStart < position.keyStart ∧ blockEnd lines position ≤ blockEnd lines header := by
  unfold locateChildKey at found
  dsimp only at found
  split at found
  · simp at found
  · obtain ⟨⟨line, number⟩, member, matched⟩ := List.exists_of_findSome?_eq_some found
    -- The child is on a line of the block that says something, so the two blocks are nested.
    obtain ⟨spoken, -, -, matched⟩ := matchKeyAt_eq_some matched
    obtain ⟨below, inside, at_⟩ := mem_blockLines.mp member
    obtain ⟨rfl, here⟩ := isKeyAt_of_matchKey at_ matched
    have only : ∀ text, lines[position.line]? = some text → isSilent text = false := by
      intro text same
      rw [at_, Option.some.injEq] at same
      rwa [← same]
    exact ⟨below, inside, here, blockEnd_le_of_isKeyAt below inside here only⟩

/-- The anchor of an item is on a line of the block. -/
theorem blockItemAnchor_eq_some {lines : List Line} {header anchor : KeyPosition} {index : Int}
    (found : blockItemAnchor lines header index = some anchor) :
    header.line < anchor.line ∧ anchor.line < blockEnd lines header := by
  unfold blockItemAnchor at found
  split at found
  · simp at found
  · -- The anchor is that of a start of an item, which is a line of the block.
    obtain ⟨⟨line, number⟩, started, rfl⟩ := Option.map_eq_some_iff.mp found
    obtain ⟨inBlock, -⟩ := mem_itemStarts (List.mem_of_getElem? started)
    obtain ⟨below, inside, -⟩ := mem_blockLines.mp inBlock
    exact ⟨below, inside⟩

/-- The span of an item of a section is that of an item in its block. -/
theorem isItemSpan_of_getElem? {lines : List Line} {key : List Char} {header : KeyPosition}
    (found : locateKey lines key = some header) {index : Nat} {span : LineSpan}
    (spanned : (itemSpans lines key)[index]? = some span) : IsItemSpan lines header span := by
  -- The items of a section are those in the block of its key.
  have member := List.mem_of_getElem? spanned
  simp only [itemSpans, found] at member
  exact isItemSpan_of_mem member

/-- What an item says below its first line is indented deeper than its dash. -/
def DeeperThanDash (lines : List Line) (span : LineSpan) : Prop :=
  ∀ first number line, lines[span.first]? = some first → span.first < number → number ≤ span.last →
    lines[number]? = some line → isSilent line = false → indent first < indent line

/-- A key of an item whose lines are deeper than its dash opens a block that ends with the item. -/
theorem blockEnd_le_of_isItemSpan {lines : List Line} {key : List Char} {header position : KeyPosition}
    {span : LineSpan} (item : IsItemSpan lines header span) (deeper : DeeperThanDash lines span)
    (above : span.first ≤ position.line) (below : position.line ≤ span.last)
    (here : IsKeyAt lines key position)
    (spoken : ∀ line, lines[position.line]? = some line → isSilent line = false) :
    blockEnd lines position ≤ span.last + 1 := by
  obtain ⟨line, at_, matched⟩ := here
  obtain ⟨first, firstAt, -, dash⟩ := item.dash
  -- The key stands deeper than the dash, on the first line as on the others.
  have column : indent first < position.keyStart := by
    rcases Nat.eq_or_lt_of_le above with same | later
    · rw [← same, firstAt, Option.some.injEq] at at_
      subst at_
      exact lt_keyStart_of_continuesBlock (by simp [continuesBlock, dash]) matched
    · have := deeper first _ line firstAt later below at_ (spoken line at_)
      have := indent_le_keyStart matched
      omega
  have afterHeader : header.line < position.line := Nat.lt_of_lt_of_le item.below above
  have inBlock : position.line < blockEnd lines header := Nat.lt_of_le_of_lt below item.inside
  have nested := (blockEnd_le_of_isKeyAt afterHeader inBlock ⟨line, at_, matched⟩ spoken).2
  obtain ⟨stop, behind, stops, silence⟩ := item.ends
  by_contra longer
  -- A line behind the item that holds the key's block open would have to stand before the stop.
  have further : span.last + 1 < blockEnd lines position := by omega
  have beneath : position.line < span.last + 1 := by omega
  obtain ⟨far, reach, holds⟩ := (lt_blockEnd_iff beneath).mp further
  obtain ⟨text, textAt, loud⟩ := holds.2.1
  have before : far < stop := by
    by_contra past
    rcases stops with same | ⟨-, line, next, lineAt, nextAt, nextSpoken, level⟩
    · have := holds.lt_blockEnd
      omega
    · rw [firstAt, Option.some.injEq] at lineAt
      subst lineAt
      have continues := holds.2.2 stop next (by omega) (by omega) nextAt nextSpoken
      simp only [continuesBlock, Bool.or_eq_true, Bool.and_eq_true, decide_eq_true_eq, beq_iff_eq] at continues
      omega
  simp [silence far text (by omega) before textAt] at loud

end PlanLint
