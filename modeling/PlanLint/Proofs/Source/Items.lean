import PlanLint.Proofs.Source.Block

/-! The items of a block: each span starts with a dash of the sequence and ends before the next. -/

namespace PlanLint

/-- The starts of items are the item lines of the block at the column of the first of them. -/
theorem itemStarts_eq_filter {block : List NumberedLine} {first : NumberedLine}
    (starts : (block.filter startsItem).head? = some first) :
    itemStarts block = block.filter fun line => startsItem line && indent line.1 == indent first.1 := by
  -- The first one is at its own column, so filtering by the column keeps it in front.
  unfold itemStarts
  cases items : block.filter startsItem with
  | nil => simp [items] at starts
  | cons head rest =>
    simp only [items, List.head?_cons, Option.some.injEq] at starts
    subst starts
    have both : (block.filter fun line => startsItem line && indent line.1 == indent head.1) =
        (block.filter startsItem).filter fun line => indent line.1 == indent head.1 := by
      rw [List.filter_filter]
      simp only [Bool.and_comm]
    rw [both, items, List.filter_cons_of_pos (by simp)]

/-- Every start of an item is an item line of the block. -/
theorem mem_itemStarts {block : List NumberedLine} {line : NumberedLine}
    (start : line ∈ itemStarts block) : line ∈ block ∧ startsItem line = true := by
  -- Without a first item line nothing starts; with one its column selects the others.
  cases items : (block.filter startsItem).head? with
  | none =>
    rw [List.head?_eq_none_iff] at items
    simp [itemStarts, items] at start
  | some first =>
    rw [itemStarts_eq_filter items] at start
    simp only [List.mem_filter, Bool.and_eq_true] at start
    exact ⟨start.1, start.2.1⟩

/-- All items of a sequence start at one column. -/
theorem indent_eq_of_mem_itemStarts {block : List NumberedLine} {line other : NumberedLine}
    (start : line ∈ itemStarts block) (another : other ∈ itemStarts block) :
    indent line.1 = indent other.1 := by
  -- Both are as far in as the first item line.
  cases items : (block.filter startsItem).head? with
  | none =>
    rw [List.head?_eq_none_iff] at items
    simp [itemStarts, items] at start
  | some first =>
    rw [itemStarts_eq_filter items] at start another
    simp only [List.mem_filter, Bool.and_eq_true, beq_iff_eq] at start another
    rw [start.2.2, another.2.2]

/-- Lines in the order of their numbers. -/
abbrev InOrder (block : List NumberedLine) : Prop := block.Pairwise fun line next => line.2 < next.2

/-- Numbering a text puts its lines in order. -/
theorem inOrder_zipIdx (text : List Line) (start : Nat) : InOrder (text.zipIdx start) := by
  -- The numbers count up.
  have numbers : ((text.zipIdx start).map (·.2)).Pairwise (· < ·) := by
    rw [List.zipIdx_map_snd]
    exact List.pairwise_lt_range'
  exact List.pairwise_map.mp numbers

/-- The starts of items are in order. -/
theorem inOrder_itemStarts {block : List NumberedLine} (ordered : InOrder block) :
    InOrder (itemStarts block) := by
  -- The starts are some of the lines, in the order of the block.
  cases items : (block.filter startsItem).head? with
  | none =>
    rw [List.head?_eq_none_iff] at items
    simp [itemStarts, items]
  | some first =>
    rw [itemStarts_eq_filter items]
    exact List.Pairwise.sublist List.filter_sublist ordered

/-- A search in ordered lines gives what it finds on one of them if it finds nothing on those before. -/
theorem InOrder.findSome?_eq_some_iff {block : List NumberedLine} (ordered : InOrder block)
    {find : NumberedLine → Option KeyPosition}
    (numbered : ∀ line position, find line = some position → position.line = line.2) {position : KeyPosition} :
    block.findSome? find = some position ↔
      ∃ line, (line, position.line) ∈ block ∧ find (line, position.line) = some position ∧
        ∀ other ∈ block, other.2 < position.line → find other = none := by
  rw [List.findSome?_eq_some_iff]
  constructor
  · rintro ⟨front, ⟨line, number⟩, later, rfl, found, nothing⟩
    obtain rfl := numbered _ _ found
    refine ⟨line, by simp, found, ?_⟩
    intro other member before
    -- In order, a line with a smaller number is one of those in front.
    rcases List.mem_append.mp member with early | late
    · exact nothing other early
    · have above := (List.pairwise_cons.mp (List.pairwise_append.mp ordered).2.1).1
      rcases List.mem_cons.mp late with rfl | behind
      · exact absurd before (Nat.lt_irrefl _)
      · exact absurd (above other behind) (Nat.lt_asymm before)
  · rintro ⟨line, member, found, nothing⟩
    obtain ⟨front, later, rfl⟩ := List.append_of_mem member
    -- What stands in front of the line has smaller numbers, and there nothing is found.
    refine ⟨front, _, later, rfl, found, ?_⟩
    intro other early
    exact nothing other (List.mem_append_left _ early)
      ((List.pairwise_append.mp ordered).2.2 other early _ (List.mem_cons_self ..))

/-- The last spoken line between two numbers is not above the first number, and if it is another
line, then one of the block that says something. -/
theorem lastSpoken_eq_or (block : List NumberedLine) (first stop : Nat) :
    lastSpoken block first stop = first ∨
      ∃ line, (line, lastSpoken block first stop) ∈ block ∧ first < lastSpoken block first stop ∧
        lastSpoken block first stop < stop ∧ isSilent line = false := by
  -- Without a spoken line behind the first one the span ends where it starts.
  unfold lastSpoken
  cases last : (block.filter fun line =>
      first < line.2 && line.2 < stop && !isSilent line.1).getLast? with
  | none => exact .inl rfl
  | some line =>
    have found := List.mem_of_getLast? last
    simp only [List.mem_filter, Bool.and_eq_true, decide_eq_true_eq, Bool.not_eq_true'] at found
    exact .inr ⟨line.1, found.1, found.2.1.1, found.2.1.2, found.2.2⟩

/-- Nothing is said between the last spoken line and the stop. -/
theorem isSilent_of_lastSpoken_lt {block : List NumberedLine} (ordered : InOrder block)
    {first stop : Nat} {line : NumberedLine} (found : line ∈ block) (above : first < line.2)
    (after : lastSpoken block first stop < line.2) (before : line.2 < stop) :
    isSilent line.1 = true := by
  cases spoken : isSilent line.1 with
  | true => rfl
  | false =>
    exfalso
    have kept : line ∈ block.filter fun line => first < line.2 && line.2 < stop && !isSilent line.1 := by
      simp [found, above, before, spoken]
    unfold lastSpoken at after
    cases last : (block.filter fun line =>
        first < line.2 && line.2 < stop && !isSilent line.1).getLast? with
    | none =>
      rw [List.getLast?_eq_none_iff] at last
      simp [last] at kept
    | some final =>
      -- The spoken lines are in order, so none of them stands behind the last.
      obtain ⟨front, split⟩ := List.getLast?_eq_some_iff.mp last
      have sorted : InOrder (front ++ [final]) :=
        split ▸ List.Pairwise.sublist List.filter_sublist ordered
      rw [last] at after
      rw [split, List.mem_append, List.mem_singleton] at kept
      rcases kept with early | same
      · have := (List.pairwise_append.mp sorted).2.2 line early final (by simp)
        simp only at after
        omega
      · simp only [same] at after
        omega

/-- Each span runs from its start to the last spoken line before the next start or the stop. -/
theorem getElem?_spansFrom (block : List NumberedLine) (stop : Nat) (starts : List Nat) (index : Nat) :
    (spansFrom block stop starts)[index]? = (starts[index]?).map fun start =>
      ⟨start, lastSpoken block start ((starts[index + 1]?).getD stop)⟩ := by
  -- The recursion looks one start ahead, as its cases do.
  fun_induction spansFrom block stop starts generalizing index with
  | case1 => simp
  | case2 start => cases index <;> simp
  | case3 start next rest ih =>
    cases index with
    | zero => simp
    | succ index => simp [ih]

/-- Spans depend on a block only through its last spoken lines. -/
theorem spansFrom_congr {block other : List NumberedLine}
    (same : ∀ first stop, lastSpoken block first stop = lastSpoken other first stop)
    (stop : Nat) (starts : List Nat) : spansFrom block stop starts = spansFrom other stop starts := by
  -- The two lists are compared index by index.
  apply List.ext_getElem?
  intro index
  simp only [getElem?_spansFrom, same]

/-- What makes a span of lines that of an item in the block of a header. -/
structure IsItemSpan (lines : List Line) (header : KeyPosition) (span : LineSpan) : Prop where
  below : header.line < span.first
  ordered : span.first ≤ span.last
  inside : span.last < blockEnd lines header
  /-- The first line has the dash. -/
  dash : ∃ line, lines[span.first]? = some line ∧ isSilent line = false ∧ isItem line = true
  /-- Behind the span nothing is said up to the end of the block or a dash at the same column. -/
  ends : ∃ stop, span.last < stop ∧
    (stop = blockEnd lines header ∨ stop < blockEnd lines header ∧
      ∃ line next, lines[span.first]? = some line ∧ lines[stop]? = some next ∧
        isSilent next = false ∧ indent next = indent line) ∧
    ∀ number line, span.last < number → number < stop → lines[number]? = some line →
      isSilent line = true

/-- An item stops at the next start, which is a dash at the same column, or at the end of the block if
there is no next one. -/
theorem stop_of_itemStarts {lines : List Line} {header : KeyPosition} {line : Line} {index number stop : Nat}
    (started : (itemStarts (blockLines lines header))[index]? = some (line, number))
    (stopped : (((itemStarts (blockLines lines header)).map (·.2))[index + 1]?).getD
      (blockEnd lines header) = stop) :
    number < stop ∧ (stop = blockEnd lines header ∨ stop < blockEnd lines header ∧
      ∃ text next, lines[number]? = some text ∧ lines[stop]? = some next ∧
        isSilent next = false ∧ indent next = indent text) := by
  have ordered : InOrder (blockLines lines header) := inOrder_zipIdx _ _
  have member := List.mem_of_getElem? started
  obtain ⟨-, inside, at_⟩ := mem_blockLines.mp (mem_itemStarts member).1
  rw [List.getElem?_map] at stopped
  cases following : (itemStarts (blockLines lines header))[index + 1]? with
  | none =>
    simp only [following, Option.map_none, Option.getD_none] at stopped
    exact ⟨by omega, .inl stopped.symm⟩
  | some next =>
    simp only [following, Option.map_some, Option.getD_some] at stopped
    subst stopped
    have nextMember := List.mem_of_getElem? following
    obtain ⟨nextInBlock, nextStarts⟩ := mem_itemStarts nextMember
    simp only [startsItem, Bool.and_eq_true, Bool.not_eq_true'] at nextStarts
    obtain ⟨-, nextInside, nextAt⟩ := mem_blockLines.mp nextInBlock
    -- The starts are in the order of their lines.
    have later := List.pairwise_iff_getElem.mp (inOrder_itemStarts ordered) index (index + 1)
      (List.getElem?_eq_some_iff.mp started).1 (List.getElem?_eq_some_iff.mp following).1 (by omega)
    rw [(List.getElem?_eq_some_iff.mp started).2, (List.getElem?_eq_some_iff.mp following).2] at later
    exact ⟨later, .inr ⟨nextInside, line, next.1, at_, nextAt, nextStarts.1,
      indent_eq_of_mem_itemStarts nextMember member⟩⟩

/-- The spans of a block are spans of its items. -/
theorem isItemSpan_of_mem {lines : List Line} {header : KeyPosition} {span : LineSpan}
    (found : span ∈ blockItemSpans lines header) : IsItemSpan lines header span := by
  -- The span comes from one of the starts.
  obtain ⟨index, at_⟩ := List.mem_iff_getElem?.mp found
  rw [blockItemSpans, getElem?_spansFrom, Option.map_eq_some_iff] at at_
  obtain ⟨start, started, rfl⟩ := at_
  rw [List.getElem?_map, Option.map_eq_some_iff] at started
  obtain ⟨⟨line, number⟩, started, rfl⟩ := started
  obtain ⟨inBlock, starts⟩ := mem_itemStarts (List.mem_of_getElem? started)
  simp only [startsItem, Bool.and_eq_true, Bool.not_eq_true'] at starts
  obtain ⟨below, inside, at_⟩ := mem_blockLines.mp inBlock
  generalize stopped : (((itemStarts (blockLines lines header)).map (·.2))[index + 1]?).getD
    (blockEnd lines header) = stop
  have stops := stop_of_itemStarts started stopped
  -- It ends with the last line before the stop that says something.
  have last := lastSpoken_eq_or (blockLines lines header) number stop
  have bounds : number ≤ lastSpoken (blockLines lines header) number stop ∧
      lastSpoken (blockLines lines header) number stop < stop := by
    rcases last with same | ⟨text, -, after, before, -⟩ <;> omega
  refine ⟨below, bounds.1, ?_, ⟨line, at_, starts⟩, stop, bounds.2, stops.2, ?_⟩
  · dsimp only
    rcases stops.2 with same | ⟨less, -⟩ <;> omega
  · intro far text after before found
    dsimp only at after
    have within : far < blockEnd lines header := by
      rcases stops.2 with same | ⟨less, -⟩ <;> omega
    have inBlock : (text, far) ∈ blockLines lines header :=
      mem_blockLines.mpr ⟨by omega, within, found⟩
    exact isSilent_of_lastSpoken_lt (inOrder_zipIdx _ _) inBlock (by dsimp only; omega) after before

end PlanLint
