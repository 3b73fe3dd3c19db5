import PlanLint.Proofs.Source.Columns
import PlanLint.Proofs.Source.Respacing

/-! The spans of items divide what a block says among them, from the first dash on, and the anchors are
their dashes. -/

namespace PlanLint

/-- A line of a block has a dash at a column. -/
def DashAt (lines : List Line) (header : KeyPosition) (column number : Nat) : Prop :=
  HoldsOpen lines header number ∧ ∃ line, lines[number]? = some line ∧ isItem line = true ∧ indent line = column

/-- A column is that of the first dash in a block. -/
def IsItemColumn (lines : List Line) (header : KeyPosition) (column : Nat) : Prop :=
  ∃ top, DashAt lines header column top ∧ ∀ any other, DashAt lines header any other → top ≤ other

/-- An anchor is the dash of an item that starts on a line, with the value behind it. -/
structure KeyPosition.IsDashOf (lines : List Line) (number : Nat) (anchor : KeyPosition) : Prop where
  line : anchor.line = number
  sign : ∃ text, lines[number]? = some text ∧ indent text = anchor.keyStart ∧
    text[anchor.keyStart]? = some '-' ∧ anchor.valueEnd ≤ text.length
  width : anchor.keyEnd = anchor.keyStart + 1
  value : anchor.keyEnd ≤ anchor.valueStart
  ordered : anchor.valueStart ≤ anchor.valueEnd

/-- Spans divide the block of a header among its items. -/
structure DividesBlock (lines : List Line) (header : KeyPosition) (spans : List LineSpan) : Prop where
  /-- A span starts exactly at each dash in the column of the first one. -/
  starts : ∀ number, (∃ span ∈ spans, span.first = number) ↔
    ∃ column, IsItemColumn lines header column ∧ DashAt lines header column number
  ordered : ∀ span ∈ spans, span.first ≤ span.last
  apart : spans.Pairwise fun span next => span.last < next.first
  /-- It starts and ends on lines of the block that say something. -/
  ends : ∀ span ∈ spans, HoldsOpen lines header span.first ∧ HoldsOpen lines header span.last
  /-- Every line of the block that says something is in one span, unless it stands before the first of them. -/
  covers : ∀ number top, spans.head? = some top → top.first ≤ number → HoldsOpen lines header number →
    ∃! span, span ∈ spans ∧ span.first ≤ number ∧ number ≤ span.last
  /-- Nothing else that says something is in any span. -/
  within : ∀ span ∈ spans, ∀ number line, span.first ≤ number ∧ number ≤ span.last →
    lines[number]? = some line → isSilent line = false → HoldsOpen lines header number

/-- Anchors are the dashes that spans start with, one for each span. -/
structure AnchorsItems (lines : List Line) (spans : List LineSpan) (anchors : Int → Option KeyPosition) : Prop where
  absent : ∀ index, anchors index = none ↔ index < 0 ∨ spans.length ≤ index
  present : ∀ index anchor, anchors index = some anchor →
    ∃ span, spans[index.toNat]? = some span ∧ anchor.IsDashOf lines span.first

section Spans

variable {block : List NumberedLine} {start stop : Nat} {starts : List Nat}

/-- The last spoken line is not above the first number. -/
theorem le_lastSpoken (block : List NumberedLine) (start stop : Nat) : start ≤ lastSpoken block start stop := by
  -- Either it is the first number or it lies above it.
  rcases lastSpoken_eq_or block start stop with same | ⟨-, -, above, -⟩
  · exact same.ge
  · exact Nat.le_of_lt above

/-- It is above the stop if the first number is. -/
theorem lastSpoken_lt (block : List NumberedLine) (room : start < stop) : lastSpoken block start stop < stop := by
  -- A last spoken line behind the first one is looked for in front of the stop only.
  rcases lastSpoken_eq_or block start stop with same | ⟨-, -, -, below, -⟩
  · rwa [same]
  · exact below

/-- The spans start where they are wanted to. -/
theorem map_first_spansFrom (block : List NumberedLine) (stop : Nat) (starts : List Nat) :
    (spansFrom block stop starts).map (·.first) = starts := by
  -- The recursion looks one start ahead, as its cases do.
  fun_induction spansFrom block stop starts with
  | case1 => rfl
  | case2 start => rfl
  | case3 start next rest ih => rw [List.map_cons, ih]

/-- Each span ends before the next one starts. -/
theorem spansFrom_apart (sorted : starts.Pairwise (· < ·)) :
    (spansFrom block stop starts).Pairwise fun span next => span.last < next.first := by
  fun_induction spansFrom block stop starts with
  | case1 => exact .nil
  | case2 start => exact List.pairwise_singleton _ _
  | case3 start next rest ih =>
    obtain ⟨below, sorted⟩ := List.pairwise_cons.mp sorted
    refine List.pairwise_cons.mpr ⟨?_, ih sorted⟩
    intro span member
    -- The first span ends before the next start, and no later span starts above that.
    have ends := lastSpoken_lt block (below next (List.mem_cons_self ..))
    have among : span.first ∈ next :: rest := by
      rw [← map_first_spansFrom block stop (next :: rest)]
      exact List.mem_map_of_mem member
    rcases List.mem_cons.mp among with same | later
    · rw [same]
      exact ends
    · exact Nat.lt_trans ends ((List.pairwise_cons.mp sorted).1 _ later)

/-- A line between a start and a stop that says something is not behind the last of them. -/
theorem le_lastSpoken_of_mem (ordered : InOrder block) {line : NumberedLine} (member : line ∈ block)
    (spoken : isSilent line.1 = false) (above : start ≤ line.2) (before : line.2 < stop) :
    line.2 ≤ lastSpoken block start stop := by
  -- Behind the last of them the lines up to the stop are silent.
  by_contra after
  have reached := le_lastSpoken block start stop
  have silent := isSilent_of_lastSpoken_lt ordered member (by omega) (Nat.lt_of_not_le after) before
  rw [spoken] at silent
  exact Bool.false_ne_true silent

/-- A line of the block that says something, from the first start on and before the stop, is in some span. -/
theorem exists_mem_spansFrom (ordered : InOrder block) {line : NumberedLine} (member : line ∈ block)
    (spoken : isSilent line.1 = false) (before : line.2 < stop) {top : Nat} (first : starts.head? = some top)
    (above : top ≤ line.2) :
    ∃ span ∈ spansFrom block stop starts, span.first ≤ line.2 ∧ line.2 ≤ span.last := by
  fun_induction spansFrom block stop starts generalizing top with
  | case1 => simp at first
  | case2 start =>
    obtain rfl : start = top := by simpa using first
    exact ⟨_, List.mem_singleton_self _, above, le_lastSpoken_of_mem ordered member spoken above before⟩
  | case3 start next rest ih =>
    obtain rfl : start = top := by simpa using first
    -- The line stands before the next start, or it is the next start or one behind it.
    rcases Nat.lt_or_ge line.2 next with early | late
    · exact ⟨_, List.mem_cons_self .., above, le_lastSpoken_of_mem ordered member spoken above early⟩
    · obtain ⟨span, among, inside⟩ := ih rfl late
      exact ⟨span, List.mem_cons_of_mem _ among, inside⟩

end Spans

/-- The head of ordered lines is the one with the least number. -/
theorem InOrder.head?_eq_some_iff {block : List NumberedLine} (ordered : InOrder block) {top : NumberedLine} :
    block.head? = some top ↔ top ∈ block ∧ ∀ line ∈ block, top.2 ≤ line.2 := by
  cases block with
  | nil => simp
  | cons first rest =>
    have above := (List.pairwise_cons.mp ordered).1
    rw [List.head?_cons, Option.some.injEq]
    constructor
    · rintro rfl
      refine ⟨List.mem_cons_self .., ?_⟩
      intro line member
      rcases List.mem_cons.mp member with rfl | later
      · exact Nat.le_refl _
      · exact Nat.le_of_lt (above line later)
    · rintro ⟨member, least⟩
      -- Another line would have a larger number than the first one.
      rcases List.mem_cons.mp member with same | later
      · exact same.symm
      · exact absurd (least first (List.mem_cons_self ..)) (Nat.not_le.mpr (above top later))

section Block

variable {lines : List Line} {header : KeyPosition}

/-- A dash is an item line of the block. -/
theorem dashAt_iff {column number : Nat} : DashAt lines header column number ↔
    ∃ line, (line, number) ∈ (blockLines lines header).filter startsItem ∧ indent line = column := by
  simp only [DashAt, List.mem_filter, startsItem, Bool.and_eq_true, Bool.not_eq_true']
  constructor
  · rintro ⟨holds, line, at_, item, level⟩
    -- What holds the block open says something, so it is no comment.
    obtain ⟨text, there, spoken⟩ := holds.2.1
    obtain rfl : text = line := Option.some.inj (there.symm.trans at_)
    exact ⟨text, ⟨(mem_blockLines_iff_holdsOpen spoken).mpr ⟨at_, holds⟩, spoken, item⟩, level⟩
  · rintro ⟨line, ⟨member, spoken, item⟩, level⟩
    obtain ⟨at_, holds⟩ := (mem_blockLines_iff_holdsOpen spoken).mp member
    exact ⟨holds, line, at_, item, level⟩

/-- The column of the first dash is that of the first item line. -/
theorem isItemColumn_iff {column : Nat} : IsItemColumn lines header column ↔
    ∃ top, ((blockLines lines header).filter startsItem).head? = some top ∧ indent top.1 = column := by
  -- The first item line is the one with the least number, as the lines of a block are in order.
  have ordered : InOrder ((blockLines lines header).filter startsItem) :=
    (inOrder_blockLines lines header).sublist List.filter_sublist
  simp only [ordered.head?_eq_some_iff]
  constructor
  · rintro ⟨number, dash, least⟩
    obtain ⟨line, member, level⟩ := dashAt_iff.mp dash
    refine ⟨(line, number), ⟨member, ?_⟩, level⟩
    rintro ⟨other, place⟩ among
    exact least _ place (dashAt_iff.mpr ⟨other, among, rfl⟩)
  · rintro ⟨⟨line, number⟩, ⟨member, least⟩, level⟩
    refine ⟨number, dashAt_iff.mpr ⟨line, member, level⟩, ?_⟩
    intro any place dash
    obtain ⟨other, among, -⟩ := dashAt_iff.mp dash
    exact least (other, place) among

/-- Items start at the dashes in the column of the first one. -/
theorem mem_starts_iff {number : Nat} : number ∈ (itemStarts (blockLines lines header)).map (·.2) ↔
    ∃ column, IsItemColumn lines header column ∧ DashAt lines header column number := by
  cases items : ((blockLines lines header).filter startsItem).head? with
  | none =>
    have empty := List.head?_eq_none_iff.mp items
    simp [isItemColumn_iff, itemStarts, empty]
  | some top =>
    -- What starts an item is an item line of the block at the column of the first one.
    have column_eq : ∀ column, IsItemColumn lines header column ↔ indent top.1 = column := by
      simp [isItemColumn_iff, items]
    have kept : ∀ line, (line, number) ∈ itemStarts (blockLines lines header) ↔
        (line, number) ∈ (blockLines lines header).filter startsItem ∧ indent line = indent top.1 := by
      intro line
      simp [itemStarts_eq_filter items, and_assoc]
    constructor
    · intro started
      obtain ⟨⟨line, _⟩, member, rfl⟩ := List.mem_map.mp started
      obtain ⟨among, level⟩ := (kept line).mp member
      exact ⟨_, (column_eq _).mpr rfl, dashAt_iff.mpr ⟨line, among, level⟩⟩
    · rintro ⟨column, first, dash⟩
      obtain rfl := (column_eq column).mp first
      obtain ⟨line, among, level⟩ := dashAt_iff.mp dash
      exact List.mem_map.mpr ⟨_, (kept line).mpr ⟨among, level⟩, rfl⟩

/-- The starts of items are in order. -/
theorem sorted_starts (lines : List Line) (header : KeyPosition) :
    ((itemStarts (blockLines lines header)).map (·.2)).Pairwise (· < ·) :=
  List.pairwise_map.mpr (inOrder_itemStarts (inOrder_blockLines lines header))

/-- The spans of a block start where its items do. -/
theorem map_first_blockItemSpans (lines : List Line) (header : KeyPosition) :
    (blockItemSpans lines header).map (·.first) = (itemStarts (blockLines lines header)).map (·.2) :=
  map_first_spansFrom _ _ _

/-- Each span of a block ends before the next one starts. -/
theorem blockItemSpans_apart (lines : List Line) (header : KeyPosition) :
    (blockItemSpans lines header).Pairwise fun span next => span.last < next.first :=
  spansFrom_apart (sorted_starts lines header)

/-- Two spans of a block that have a line in common are one. -/
theorem eq_of_mem_blockItemSpans {span other : LineSpan} {number : Nat}
    (member : span ∈ blockItemSpans lines header) (also : other ∈ blockItemSpans lines header)
    (here : span.first ≤ number ∧ number ≤ span.last) (there : other.first ≤ number ∧ number ≤ other.last) :
    span = other := by
  -- Of two different spans one is in front of the other, and ends before it.
  obtain ⟨i, inside, rfl⟩ := List.mem_iff_getElem.mp member
  obtain ⟨j, within, rfl⟩ := List.mem_iff_getElem.mp also
  have apart := List.pairwise_iff_getElem.mp (blockItemSpans_apart lines header)
  rcases Nat.lt_trichotomy i j with before | rfl | behind
  · have := apart i j inside within before
    omega
  · rfl
  · have := apart j i within inside behind
    omega

/-- A line of the block that says something is in a span, unless it stands before all of them. -/
theorem exists_mem_blockItemSpans {number : Nat} {top : LineSpan}
    (first : (blockItemSpans lines header).head? = some top) (above : top.first ≤ number)
    (holds : HoldsOpen lines header number) :
    ∃ span ∈ blockItemSpans lines header, span.first ≤ number ∧ number ≤ span.last := by
  -- The spans start with the starts, and the last start above the line has it in its span.
  obtain ⟨line, at_, spoken⟩ := holds.2.1
  have starts : ((itemStarts (blockLines lines header)).map (·.2)).head? = some top.first := by
    rw [← map_first_blockItemSpans, List.head?_map, first, Option.map_some]
  have member : (line, number) ∈ blockLines lines header := (mem_blockLines_iff_holdsOpen spoken).mpr ⟨at_, holds⟩
  exact exists_mem_spansFrom (inOrder_blockLines lines header) member spoken holds.lt_blockEnd starts above

/-- A line in a span that says something is a line of the block. -/
theorem holdsOpen_of_mem_span {span : LineSpan} (member : span ∈ blockItemSpans lines header) {number : Nat}
    {line : Line} (here : span.first ≤ number ∧ number ≤ span.last) (at_ : lines[number]? = some line)
    (spoken : isSilent line = false) : HoldsOpen lines header number := by
  -- A span lies in the block, from its first line to its last.
  have item := isItemSpan_of_mem member
  have inBlock : (line, number) ∈ blockLines lines header :=
    mem_blockLines.mpr ⟨Nat.lt_of_lt_of_le item.below here.1, Nat.lt_of_le_of_lt here.2 item.inside, at_⟩
  exact ((mem_blockLines_iff_holdsOpen spoken).mp inBlock).2

/-- The text behind the indentation of an item starts with the dash. -/
theorem getElem?_indent_of_isItem {text : Line} (item : isItem text = true) : text[indent text]? = some '-' := by
  -- A line is an item by a dash alone or by one with a blank behind it.
  have dash : (trimStart text).head? = some '-' := by
    unfold isItem at item
    split at item
    · rename_i alone
      rw [alone, List.head?_cons]
    · rename_i spaced
      rw [spaced, List.head?_cons]
    · simp at item
  have whole : text.takeWhile isBlank ++ trimStart text = text := List.takeWhile_append_dropWhile
  -- The indentation is the run of blanks that trimming takes off.
  calc text[indent text]?
      = (text.takeWhile isBlank ++ trimStart text)[(text.takeWhile isBlank).length]? := by rw [whole, indent]
    _ = (trimStart text).head? := by
      rw [List.getElem?_append_right (Nat.le_refl _), Nat.sub_self, List.head?_eq_getElem?]
    _ = some '-' := dash

/-- The anchor of an item is the dash at its indentation. -/
theorem isDashOf_itemAnchor {line : Line} {number : Nat} (at_ : lines[number]? = some line)
    (item : isItem line = true) : (itemAnchor (line, number)).IsDashOf lines number := by
  -- The anchor fits on its line, and its value columns are in order.
  have fits := @fits_itemAnchor (line, number) item
  have bounds := valueColumns_bounds (indent line + 1) ((trimEnd line).drop (indent line + 1))
  exact ⟨rfl, ⟨line, at_, rfl, getElem?_indent_of_isItem item, fits.valueStop⟩, rfl, bounds.1, bounds.2.1⟩

/-- The spans of a block divide it. -/
theorem divides_blockItemSpans (lines : List Line) (header : KeyPosition) :
    DividesBlock lines header (blockItemSpans lines header) where
  starts := by
    intro number
    -- The spans and the starts of items are made from the same lines.
    rw [← mem_starts_iff, ← map_first_blockItemSpans, List.mem_map]
  ordered := by
    intro span member
    exact (isItemSpan_of_mem member).ordered
  apart := blockItemSpans_apart lines header
  ends := by
    intro span member
    -- A span starts with the line of its dash and ends with one that says something, so both lie in the block.
    have ordered := (isItemSpan_of_mem member).ordered
    obtain ⟨first, at_, spoken, -⟩ := (isItemSpan_of_mem member).dash
    obtain ⟨last, there, loud⟩ := exists_spoken_last_of_mem member
    exact ⟨holdsOpen_of_mem_span member ⟨Nat.le_refl _, ordered⟩ at_ spoken,
      holdsOpen_of_mem_span member ⟨ordered, Nat.le_refl _⟩ there loud⟩
  covers := by
    intro number top first above holds
    -- Spans are apart, so the one that has the line is the only one.
    obtain ⟨span, member, inside⟩ := exists_mem_blockItemSpans first above holds
    refine ⟨span, ⟨member, inside⟩, ?_⟩
    rintro other ⟨also, there⟩
    exact eq_of_mem_blockItemSpans also member there inside
  within := by
    intro span member number line inside at_ spoken
    exact holdsOpen_of_mem_span member inside at_ spoken

/-- There is an anchor for each of the spans of a block. -/
theorem anchors_blockItemAnchor (lines : List Line) (header : KeyPosition) :
    AnchorsItems lines (blockItemSpans lines header) (blockItemAnchor lines header) where
  absent := by
    intro index
    have sizes := congrArg List.length (map_first_blockItemSpans lines header)
    simp only [List.length_map] at sizes
    rw [sizes]
    unfold blockItemAnchor
    split
    · rename_i before
      simp [before]
    · rw [Option.map_eq_none_iff, List.getElem?_eq_none_iff]
      omega
  present := by
    intro index anchor found
    unfold blockItemAnchor at found
    split at found
    · simp at found
    · obtain ⟨⟨line, number⟩, started, rfl⟩ := Option.map_eq_some_iff.mp found
      -- The span with this index starts on the line of the anchor.
      have first : ((blockItemSpans lines header).map (·.first))[index.toNat]? = some number := by
        rw [map_first_blockItemSpans, List.getElem?_map, started, Option.map_some]
      obtain ⟨span, at_, rfl⟩ := Option.map_eq_some_iff.mp ((List.getElem?_map ..).symm.trans first)
      obtain ⟨inBlock, starts⟩ := mem_itemStarts (List.mem_of_getElem? started)
      simp only [startsItem, Bool.and_eq_true] at starts
      exact ⟨span, at_, isDashOf_itemAnchor (mem_blockLines.mp inBlock).2.2 starts.2⟩

/-- The spans of items divide the block of any header, with an anchor for each. Those of a section divide the
block of its key, and a section that is not found has neither. -/
theorem items_divided (lines : List Line) :
    (∀ header, DividesBlock lines header (blockItemSpans lines header) ∧
      AnchorsItems lines (blockItemSpans lines header) (blockItemAnchor lines header)) ∧
    ∀ key, match locateKey lines key with
      | some header => DividesBlock lines header (itemSpans lines key) ∧
          AnchorsItems lines (itemSpans lines key) (locateArrayItem lines key)
      | none => itemSpans lines key = [] ∧ ∀ index, locateArrayItem lines key index = none := by
  refine ⟨fun header => ⟨divides_blockItemSpans lines header, anchors_blockItemAnchor lines header⟩, ?_⟩
  intro key
  -- What is looked up in a section is looked up in the block of its key.
  cases found : locateKey lines key with
  | none => simp [itemSpans, locateArrayItem, found]
  | some header =>
    have spans : itemSpans lines key = blockItemSpans lines header := by simp [itemSpans, found]
    have anchors : locateArrayItem lines key = blockItemAnchor lines header := by
      funext index
      simp [locateArrayItem, found]
    rw [spans, anchors]
    exact ⟨divides_blockItemSpans lines header, anchors_blockItemAnchor lines header⟩

end Block

/-- A list with a deep first item, a list in it, a comment and a blank line between items, and a dash that is
less deep and so belongs to no item of its own. -/
def unevenList : List Line :=
  ["releases:", "    - name: a", "", "  # note", "      - x", "    -", "  - late", "other: 1"].map (·.toList)

/-- The dash that is less deep than the first goes with the item above it. -/
example : blockItemSpans unevenList ⟨0, 0, 8, 9, 9⟩ = [⟨1, 4⟩, ⟨5, 6⟩] := by decide

end PlanLint
