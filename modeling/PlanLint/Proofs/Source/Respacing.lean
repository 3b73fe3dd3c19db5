import PlanLint.Proofs.Source.Lookup
import PlanLint.Proofs.Source.Renumbering
import Mathlib.Data.List.Perm.Basic

/-! What is looked up in a text depends only on the lines that say something, and follows them when
silent lines are put between them. -/

namespace PlanLint

/-- The lines that say something. -/
def spokenLines (block : List NumberedLine) : List NumberedLine := block.filter fun line => !isSilent line.1

section Spoken

/-- A line is kept if it says something. -/
theorem mem_spokenLines {block : List NumberedLine} {line : NumberedLine} :
    line ∈ spokenLines block ↔ line ∈ block ∧ isSilent line.1 = false := by
  -- The spoken lines are selected by this very property.
  simp [spokenLines]

variable (block : List NumberedLine)

/-- Items start on lines that say something. -/
theorem itemStarts_spokenLines : itemStarts (spokenLines block) = itemStarts block := by
  have starts : (spokenLines block).filter startsItem = block.filter startsItem := by
    rw [spokenLines, List.filter_filter]
    apply List.filter_congr
    intro line _
    -- A line that starts an item is not silent, so asking for that again changes nothing.
    unfold startsItem
    cases isSilent line.1 <;> simp
  unfold itemStarts
  rw [starts]

/-- Silent lines are never the last that says something. -/
theorem lastSpoken_spokenLines (first stop : Nat) :
    lastSpoken (spokenLines block) first stop = lastSpoken block first stop := by
  -- The last spoken line is looked for among the spoken lines already.
  unfold lastSpoken spokenLines
  rw [List.filter_filter]
  simp only [Bool.and_assoc, Bool.and_self]

/-- A search that passes over silent lines finds what it finds without them. -/
theorem findSome?_spokenLines {α : Type} {find : NumberedLine → Option α}
    (quiet : ∀ line, isSilent line.1 = true → find line = none) :
    (spokenLines block).findSome? find = block.findSome? find := by
  unfold spokenLines
  -- Induction on the block: a silent line is passed over on one side and left out on the other.
  induction block with
  | nil => rfl
  | cons line rest ih =>
    cases silent : isSilent line.1 with
    | true => rw [List.filter_cons_of_neg (by simp [silent]), List.findSome?_cons, quiet line silent, ih]
    | false => rw [List.filter_cons_of_pos (by simp [silent]), List.findSome?_cons, List.findSome?_cons, ih]

/-- The first line that says something is the first of them. -/
theorem head?_spokenLines : (spokenLines block).head? = block.find? fun line => !isSilent line.1 :=
  List.head?_filter

end Spoken

section Quiet

variable {line : NumberedLine} {key : List Char}

/-- No key that does not look like a comment is found on a silent line. -/
theorem matchKey_eq_none_of_silent (named : key.head? ≠ some '#') (silent : isSilent line.1 = true) :
    matchKey line.1 key line.2 = none := by
  cases found : matchKey line.1 key line.2 with
  | none => rfl
  | some position =>
    -- A line with such a key says something.
    rw [isSilent_of_matchKey named found] at silent
    exact absurd silent (by decide)

/-- No key at all is found at a column of a silent line. -/
theorem matchKeyAt_eq_none_of_silent (column : Nat) (silent : isSilent line.1 = true) :
    matchKeyAt column key line = none := by
  -- Silence is asked before the key.
  simp [matchKeyAt, silent]

end Quiet

/-- Lines in the order of their numbers are determined by which lines they are. -/
theorem InOrder.eq_of_mem_iff {block other : List NumberedLine} (ordered : InOrder block)
    (also : InOrder other) (same : ∀ line, line ∈ block ↔ line ∈ other) : block = other := by
  -- No number occurs twice, so the two are permutations of each other, and there is only one order.
  have distinct : ∀ {lines : List NumberedLine}, InOrder lines → lines.Nodup := by
    intro lines sorted
    refine sorted.imp ?_
    rintro line next less rfl
    omega
  have permuted := (List.perm_ext_iff_of_nodup (distinct ordered) (distinct also)).mpr same
  exact List.Perm.eq_of_pairwise (fun line next _ _ less more => absurd less (by omega)) ordered also permuted

/-- A block is in the order of its lines. -/
theorem inOrder_blockLines (lines : List Line) (header : KeyPosition) : InOrder (blockLines lines header) :=
  inOrder_zipIdx _ _

/-- A line that says something is in the block of a header exactly if it holds the block open. -/
theorem mem_blockLines_iff_holdsOpen {lines : List Line} {header : KeyPosition} {line : Line} {number : Nat}
    (spoken : isSilent line = false) :
    (line, number) ∈ blockLines lines header ↔
      lines[number]? = some line ∧ HoldsOpen lines header number := by
  rw [mem_blockLines]
  constructor
  · intro held
    obtain ⟨below, inside, at_⟩ := held
    -- What holds the block open as far as some later line does so up to this one.
    obtain ⟨far, reach, -, -, each⟩ := (lt_blockEnd_iff below).mp inside
    refine ⟨at_, below, ⟨line, at_, spoken⟩, ?_⟩
    intro i other above small found loud
    exact each i other above (by omega) found loud
  · intro held
    obtain ⟨at_, holds⟩ := held
    exact ⟨holds.1, holds.lt_blockEnd, at_⟩

/-- The last line of an item says something. -/
theorem exists_spoken_last_of_mem {lines : List Line} {header : KeyPosition} {span : LineSpan}
    (member : span ∈ blockItemSpans lines header) :
    ∃ line, lines[span.last]? = some line ∧ isSilent line = false := by
  obtain ⟨line, first, spoken, -⟩ := (isItemSpan_of_mem member).dash
  obtain ⟨index, at_⟩ := List.mem_iff_getElem?.mp member
  rw [blockItemSpans, getElem?_spansFrom, Option.map_eq_some_iff] at at_
  obtain ⟨start, -, rfl⟩ := at_
  -- It is the line of the dash, or a later line of the block that was picked because it says something.
  rcases lastSpoken_eq_or (blockLines lines header) start _ with same | ⟨last, inBlock, -, -, loud⟩
  · exact ⟨line, by rw [same]; exact first, spoken⟩
  · exact ⟨last, (mem_blockLines.mp inBlock).2.2, loud⟩

/-- A key that is wanted at a column is found on a line that says something. -/
theorem exists_spoken_of_matchKeyAt {block : List NumberedLine} {column : Nat} {key : List Char}
    {position : KeyPosition} (found : block.findSome? (matchKeyAt column key) = some position) :
    ∃ line, (line, position.line) ∈ block ∧ isSilent line = false := by
  -- The position carries the number of its line.
  obtain ⟨⟨line, number⟩, member, matched⟩ := List.exists_of_findSome?_eq_some found
  obtain ⟨spoken, -, -, matched⟩ := matchKeyAt_eq_some matched
  obtain rfl := matchKey_line matched
  exact ⟨line, member, spoken⟩

/-- So is a key of the top level. -/
theorem exists_spoken_of_locateKey {lines : List Line} {key : List Char} {header : KeyPosition}
    (found : locateKey lines key = some header) :
    ∃ line, lines[header.line]? = some line ∧ isSilent line = false := by
  -- The search is one at the column of the top level.
  obtain ⟨line, member, spoken⟩ := exists_spoken_of_matchKeyAt found
  exact ⟨line, List.mem_zipIdx_iff_getElem?.mp member, spoken⟩

/-- So is a child of a header. -/
theorem exists_spoken_of_locateChildKey {lines : List Line} {key : List Char} {header position : KeyPosition}
    (found : locateChildKey lines key header = some position) :
    ∃ line, lines[position.line]? = some line ∧ isSilent line = false := by
  -- A child is looked for among the lines of the block, which are lines of the text.
  unfold locateChildKey at found
  dsimp only at found
  split at found
  · simp at found
  · obtain ⟨line, member, spoken⟩ := exists_spoken_of_matchKeyAt found
    exact ⟨line, (mem_blockLines.mp member).2.2, spoken⟩

/-- A text whose lines that say something are those of another text in the same order, under the
numbers that a function gives them. Nothing is asked of the silent lines of either. -/
structure Respaced (f : Nat → Nat) (lines respaced : List Line) : Prop where
  increasing : StrictMono f
  kept : ∀ number line, lines[number]? = some line → isSilent line = false → respaced[f number]? = some line
  only : ∀ number line, respaced[number]? = some line → isSilent line = false →
    ∃ old, f old = number ∧ lines[old]? = some line

section Respaced

variable {f : Nat → Nat} {lines respaced : List Line}

/-- Spoken lines of a part are those of another part renumbered, if each of them is one and no others
are. -/
theorem spokenLines_eq_map {block other : List NumberedLine} (increasing : StrictMono f)
    (ordered : InOrder block) (also : InOrder other)
    (each : ∀ line number, isSilent line = false →
      ((line, number) ∈ other ↔ ∃ old, f old = number ∧ (line, old) ∈ block)) :
    spokenLines other = (spokenLines block).map (renumberLine f) := by
  refine InOrder.eq_of_mem_iff (also.sublist List.filter_sublist) ?_ ?_
  · -- Renumbering keeps the order.
    refine List.pairwise_map.mpr ((ordered.sublist List.filter_sublist).imp ?_)
    intro line next less
    exact increasing less
  · rintro ⟨line, number⟩
    rw [mem_spokenLines, List.mem_map]
    constructor
    · intro held
      obtain ⟨member, spoken⟩ := held
      obtain ⟨old, rfl, listed⟩ := (each line number spoken).mp member
      exact ⟨(line, old), mem_spokenLines.mpr ⟨listed, spoken⟩, rfl⟩
    · intro held
      obtain ⟨⟨text, old⟩, kept, same⟩ := held
      obtain ⟨rfl, rfl⟩ := Prod.mk.inj same
      obtain ⟨listed, spoken⟩ := mem_spokenLines.mp kept
      exact ⟨(each text (f old) spoken).mpr ⟨old, rfl, listed⟩, spoken⟩

/-- A line that says something is one of the new text exactly if it is one of the old text. -/
theorem Respaced.getElem?_iff (r : Respaced f lines respaced) {line : Line} (spoken : isSilent line = false)
    (number : Nat) : respaced[number]? = some line ↔ ∃ old, f old = number ∧ lines[old]? = some line := by
  -- Spoken lines are kept, and the new text has no others.
  constructor
  · intro found
    exact r.only number line found spoken
  · rintro ⟨old, rfl, found⟩
    exact r.kept old line found spoken

/-- The new text says what the old one does, at the new numbers. -/
theorem Respaced.spokenLines_zipIdx (r : Respaced f lines respaced) :
    spokenLines respaced.zipIdx = (spokenLines lines.zipIdx).map (renumberLine f) := by
  -- Both texts are in order, so it is enough that they have the same numbered lines.
  refine spokenLines_eq_map r.increasing (inOrder_zipIdx _ _) (inOrder_zipIdx _ _) ?_
  intro line number spoken
  simp only [List.mem_zipIdx_iff_getElem?]
  exact r.getElem?_iff spoken number

/-- So do the lines of a span. -/
theorem Respaced.spokenLines_spanLines (r : Respaced f lines respaced) (span : LineSpan) :
    spokenLines (spanLines respaced (span.renumber f)) =
      (spokenLines (spanLines lines span)).map (renumberLine f) := by
  refine spokenLines_eq_map r.increasing (inOrder_spanLines _ _) (inOrder_spanLines _ _) ?_
  intro line number spoken
  simp only [mem_spanLines, LineSpan.renumber, r.getElem?_iff spoken]
  -- The bounds of the span are renumbered with its lines.
  constructor
  · rintro ⟨above, below, old, rfl, found⟩
    exact ⟨old, rfl, r.increasing.le_iff_le.mp above, r.increasing.le_iff_le.mp below, found⟩
  · rintro ⟨old, rfl, above, below, found⟩
    exact ⟨r.increasing.le_iff_le.mpr above, r.increasing.le_iff_le.mpr below, old, rfl, found⟩

/-- A line holds a block open in the new text exactly if it does in the old one. -/
theorem Respaced.holdsOpen_iff (r : Respaced f lines respaced) {header : KeyPosition} {number : Nat} :
    HoldsOpen respaced (header.renumber f) (f number) ↔ HoldsOpen lines header number := by
  unfold HoldsOpen
  simp only [KeyPosition.renumber, r.increasing.lt_iff_lt]
  constructor
  · intro held
    obtain ⟨below, ⟨line, found, spoken⟩, each⟩ := held
    obtain ⟨old, same, there⟩ := r.only _ _ found spoken
    obtain rfl := r.increasing.injective same
    refine ⟨below, ⟨line, there, spoken⟩, ?_⟩
    -- The lines in between that say something correspond to each other.
    intro i other above small at_ loud
    exact each (f i) other (r.increasing above) (r.increasing.le_iff_le.mpr small) (r.kept i other at_ loud) loud
  · intro held
    obtain ⟨below, ⟨line, found, spoken⟩, each⟩ := held
    refine ⟨below, ⟨line, r.kept _ _ found spoken, spoken⟩, ?_⟩
    intro i other above small at_ loud
    obtain ⟨old, rfl, there⟩ := r.only i other at_ loud
    exact each old other (r.increasing.lt_iff_lt.mp above) (r.increasing.le_iff_le.mp small) there loud

/-- So the block of a header says what it says in the old text. -/
theorem Respaced.spokenLines_blockLines (r : Respaced f lines respaced) (header : KeyPosition) :
    spokenLines (blockLines respaced (header.renumber f)) =
      (spokenLines (blockLines lines header)).map (renumberLine f) := by
  refine spokenLines_eq_map r.increasing (inOrder_blockLines _ _) (inOrder_blockLines _ _) ?_
  intro line number spoken
  simp only [mem_blockLines_iff_holdsOpen spoken, r.getElem?_iff spoken]
  -- A line is in the block exactly if it holds it open, in both texts.
  constructor
  · rintro ⟨⟨old, rfl, found⟩, holds⟩
    exact ⟨old, rfl, found, r.holdsOpen_iff.mp holds⟩
  · rintro ⟨old, rfl, found, holds⟩
    exact ⟨⟨old, rfl, found⟩, r.holdsOpen_iff.mpr holds⟩

/-- The top level is where it was. -/
theorem Respaced.topIndent_eq (r : Respaced f lines respaced) : topIndent respaced = topIndent lines := by
  -- Only the texts of the lines that say something count, not their numbers.
  have columns : ∀ text : List Line, (text.filter fun line => !isSilent line).map indent =
      (spokenLines text.zipIdx).map fun line => indent line.1 := by
    intro text
    conv_lhs => rw [← List.zipIdx_map_fst 0 text, List.filter_map, List.map_map]
    rfl
  unfold topIndent
  rw [columns, columns, r.spokenLines_zipIdx, List.map_map]
  rfl

/-- A key at a column is found on the same line as in the old part. -/
theorem findSome?_matchKeyAt_respaced {block other : List NumberedLine}
    (same : spokenLines other = (spokenLines block).map (renumberLine f)) (column : Nat) (key : List Char) :
    other.findSome? (matchKeyAt column key) = (block.findSome? (matchKeyAt column key)).map (·.renumber f) := by
  -- Silent lines can be left out of either search.
  have quiet : ∀ line : NumberedLine, isSilent line.1 = true → matchKeyAt column key line = none :=
    fun _ silent => matchKeyAt_eq_none_of_silent column silent
  rw [← findSome?_spokenLines other quiet, same, findSome?_matchKeyAt_renumber, findSome?_spokenLines block quiet]

/-- So is a key at any column, if it does not look like a comment. -/
theorem findSome?_matchKey_respaced {block other : List NumberedLine}
    (same : spokenLines other = (spokenLines block).map (renumberLine f)) {key : List Char}
    (named : key.head? ≠ some '#') :
    other.findSome? (fun line => matchKey line.1 key line.2) =
      (block.findSome? fun line => matchKey line.1 key line.2).map (·.renumber f) := by
  -- A silent line could only give a key that starts with the sign of a comment.
  have quiet : ∀ line : NumberedLine, isSilent line.1 = true → matchKey line.1 key line.2 = none :=
    fun _ silent => matchKey_eq_none_of_silent named silent
  rw [← findSome?_spokenLines other quiet, same, findSome?_matchKey_renumber, findSome?_spokenLines block quiet]

/-- A key of the top level is found where it was. -/
theorem Respaced.locateKey_eq (r : Respaced f lines respaced) (key : List Char) :
    locateKey respaced key = (locateKey lines key).map (·.renumber f) := by
  -- The top level is at the same column in both texts.
  rw [locateKey, r.topIndent_eq]
  exact findSome?_matchKeyAt_respaced r.spokenLines_zipIdx _ key

/-- So is a key below a header. -/
theorem Respaced.locateKeyBelow_eq (r : Respaced f lines respaced) {key : List Char}
    (named : key.head? ≠ some '#') (header : KeyPosition) :
    locateKeyBelow respaced key (header.renumber f) = (locateKeyBelow lines key header).map (·.renumber f) :=
  findSome?_matchKey_respaced (r.spokenLines_blockLines header) named

/-- So is a key in a span. -/
theorem Respaced.locateKeyInSpan_eq (r : Respaced f lines respaced) {key : List Char}
    (named : key.head? ≠ some '#') (span : LineSpan) :
    locateKeyInSpan respaced key (span.renumber f) = (locateKeyInSpan lines key span).map (·.renumber f) :=
  findSome?_matchKey_respaced (r.spokenLines_spanLines span) named

/-- So is a child of a header. -/
theorem Respaced.locateChildKey_eq (r : Respaced f lines respaced) (key : List Char) (header : KeyPosition) :
    locateChildKey respaced key (header.renumber f) = (locateChildKey lines key header).map (·.renumber f) := by
  have same := r.spokenLines_blockLines header
  unfold locateChildKey
  dsimp only
  -- The column of the children is that of the first line that says something, in both.
  rw [← head?_spokenLines, ← head?_spokenLines, same, List.head?_map]
  cases (spokenLines (blockLines lines header)).head? with
  | none => rfl
  | some first => exact findSome?_matchKeyAt_respaced same (indent first.1) key

/-- The items of a block start on the lines on which they started. -/
theorem Respaced.itemStarts_eq (r : Respaced f lines respaced) (header : KeyPosition) :
    itemStarts (blockLines respaced (header.renumber f)) =
      (itemStarts (blockLines lines header)).map (renumberLine f) := by
  -- A silent line starts no item.
  rw [← itemStarts_spokenLines, r.spokenLines_blockLines, itemStarts_renumber, itemStarts_spokenLines]

/-- So each of them is anchored where it was. -/
theorem Respaced.blockItemAnchor_eq (r : Respaced f lines respaced) (header : KeyPosition) (index : Int) :
    blockItemAnchor respaced (header.renumber f) index =
      (blockItemAnchor lines header index).map (·.renumber f) := by
  -- A negative index gives nothing in either text.
  unfold blockItemAnchor
  split
  · rfl
  · rw [r.itemStarts_eq, List.getElem?_map, Option.map_map, Option.map_map]
    rfl

/-- The items of a block end on the lines on which they ended. -/
theorem Respaced.blockItemSpans_eq (r : Respaced f lines respaced) (header : KeyPosition) :
    blockItemSpans respaced (header.renumber f) = (blockItemSpans lines header).map (·.renumber f) := by
  have same := r.spokenLines_blockLines header
  have starts : ((itemStarts (blockLines lines header)).map (renumberLine f)).map (·.2) =
      ((itemStarts (blockLines lines header)).map (·.2)).map f := by
    rw [List.map_map, List.map_map]
    rfl
  -- Every line of a block stands before its end, so the two ends cut off the same lines.
  have ends : ∀ line ∈ spokenLines (blockLines lines header),
      f line.2 < blockEnd respaced (header.renumber f) ↔ line.2 < blockEnd lines header := by
    intro line member
    have moved : renumberLine f line ∈ spokenLines (blockLines respaced (header.renumber f)) :=
      same ▸ List.mem_map_of_mem member
    have before := (mem_blockLines.mp (mem_spokenLines.mp member).1).2.1
    have after := (mem_blockLines.mp (mem_spokenLines.mp moved).1).2.1
    exact iff_of_true after before
  unfold blockItemSpans
  dsimp only
  rw [r.itemStarts_eq, starts, ← spansFrom_congr (lastSpoken_spokenLines (blockLines lines header)),
    ← spansFrom_congr (lastSpoken_spokenLines (blockLines respaced (header.renumber f))), same]
  exact spansFrom_renumber r.increasing _ ends _

/-- The range of a line that says something is that of the same line. -/
theorem Respaced.lineRange_eq (r : Respaced f lines respaced) {number : Nat} {line : Line}
    (found : lines[number]? = some line) (spoken : isSilent line = false) :
    lineRange respaced (f number : Nat) = (lineRange lines number).renumber f := by
  -- The line is the same, only its number is another one.
  rw [PlanLint.lineRange_eq found, PlanLint.lineRange_eq (r.kept number line found spoken)]
  rfl

/-- So is the rest of such a line from a value on. -/
theorem Respaced.lineRemainderRange_eq (r : Respaced f lines respaced) {position : KeyPosition} {line : Line}
    (found : lines[position.line]? = some line) (spoken : isSilent line = false) :
    lineRemainderRange respaced (position.renumber f) =
      (lineRemainderRange lines position).map (·.renumber f) := by
  -- The end of the rest is read off the line, which is the same.
  simp only [lineRemainderRange, KeyPosition.renumber, found, r.kept position.line line found spoken]
  rfl

/-- The range of an item is that of the same lines. -/
theorem Respaced.spanRange_eq (r : Respaced f lines respaced) {span : LineSpan} {line : Line}
    (found : lines[span.last]? = some line) (spoken : isSilent line = false) :
    spanRange respaced (span.renumber f) = (spanRange lines span).renumber f := by
  -- The end of the range is read off the last line, which is the same.
  simp only [spanRange, LineSpan.renumber, TextRange.renumber, found, r.kept span.last line found spoken]

end Respaced

/-- The numbers of lines when a line is put in at a place: those from there on grow by one. -/
def movedDownFrom (place number : Nat) : Nat := if number < place then number else number + 1

/-- The lines keep their order. -/
theorem strictMono_movedDownFrom (place : Nat) : StrictMono (movedDownFrom place) := by
  intro number next less
  unfold movedDownFrom
  -- Only the case of a line above the place and one below it is not a matter of adding on both sides.
  split <;> split <;> omega

/-- A silent line that is put in leaves all lines that say something. -/
theorem respaced_insertIdx {lines : List Line} {place : Nat} {line : Line} (silent : isSilent line = true) :
    Respaced (movedDownFrom place) lines (lines.insertIdx place line) where
  increasing := strictMono_movedDownFrom place
  kept := by
    intro number text found _
    -- Above the place nothing has moved, and from there on everything by one.
    rcases Nat.lt_or_ge number place with above | below
    · rw [movedDownFrom, if_pos above, List.getElem?_insertIdx, if_pos above, found]
    · have moved : movedDownFrom place number = number + 1 := if_neg (by omega)
      rw [moved, List.getElem?_insertIdx, if_neg (by omega), if_neg (by omega), Nat.add_sub_cancel, found]
  only := by
    intro number text found spoken
    rw [List.getElem?_insertIdx] at found
    rcases Nat.lt_trichotomy number place with above | same | below
    · rw [if_pos above] at found
      exact ⟨number, if_pos above, found⟩
    · -- The line at the place itself is the new one, which says nothing.
      rw [if_neg (by omega), if_pos same] at found
      split at found
      · rw [Option.some.injEq] at found
        rw [← found, silent] at spoken
        exact absurd spoken (by decide)
      · simp at found
    · rw [if_neg (by omega), if_neg (by omega)] at found
      refine ⟨number - 1, ?_, found⟩
      rw [movedDownFrom, if_neg (by omega)]
      omega

end PlanLint
