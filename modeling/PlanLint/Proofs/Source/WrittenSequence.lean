import PlanLint.Source.Range
import PlanLint.Proofs.Source.Items
import PlanLint.Proofs.Source.Key

/-! A sequence that is written with its items at one column gets exactly one span for each item. -/

namespace PlanLint

/-- An item as it is written. -/
structure WrittenItem where
  /-- The line with the dash. -/
  first : Line
  /-- The lines below it. -/
  rest : List Line

/-- All lines of an item. -/
def WrittenItem.lines (item : WrittenItem) : List Line := item.first :: item.rest

/-- The lines below the dash up to the last one that says something. -/
def WrittenItem.body (item : WrittenItem) : List Line := item.rest.rdropWhile isSilent

/-- The last line of an item that says something. -/
def WrittenItem.lastLine (item : WrittenItem) : Line := item.body.getLast?.getD item.first

/-- The lines from the dash to the last line that says something, if the dash is on a given line. -/
def WrittenItem.spanAt (item : WrittenItem) (start : Nat) : LineSpan := ⟨start, start + item.body.length⟩

/-- The same lines, from the start of the first to the end of the last. -/
def WrittenItem.rangeAt (item : WrittenItem) (start : Nat) : TextRange :=
  ⟨⟨start, 0⟩, ⟨start + item.body.length, item.lastLine.length⟩⟩

/-- An item has its dash at a column, and what it says below the dash is indented deeper. -/
structure WrittenItem.WellIndented (dash : Nat) (item : WrittenItem) : Prop where
  starts : isItem item.first = true
  level : indent item.first = dash
  deeper : ∀ line ∈ item.rest, isSilent line = true ∨ dash < indent line

/-- The items with the numbers of their first lines, the first of them at a given number. -/
def placedItems (start : Nat) : List WrittenItem → List (WrittenItem × Nat)
  | [] => []
  | item :: items => (item, start) :: placedItems (start + item.lines.length) items

/-- A sequence as it is written below the line of its key, with the text around it. -/
structure WrittenSequence where
  before : List Line
  header : Line
  /-- The lines between the header and the first item. -/
  gap : List Line
  items : List WrittenItem
  after : List Line

/-- The whole text. -/
def WrittenSequence.lines (s : WrittenSequence) : List Line :=
  s.before ++ s.header :: (s.gap ++ s.items.flatMap WrittenItem.lines ++ s.after)

/-- The items with the numbers of their first lines in the whole text. -/
def WrittenSequence.placed (s : WrittenSequence) : List (WrittenItem × Nat) :=
  placedItems (s.before.length + 1 + s.gap.length) s.items

/-- The items stand at one column, no less deep than the header, with nothing said before them, and
what follows closes the block. -/
structure WrittenSequence.WellIndented (column dash : Nat) (s : WrittenSequence) : Prop where
  deep : column ≤ dash
  gap : ∀ line ∈ s.gap, isSilent line = true
  items : ∀ item ∈ s.items, item.WellIndented dash
  closed : ClosesBlock column s.after

/-- The first line of an item says something. -/
theorem WrittenItem.WellIndented.spoken {dash : Nat} {item : WrittenItem} (well : item.WellIndented dash) :
    isSilent item.first = false :=
  isSilent_of_isItem well.starts

/-- Every line of an item is silent or goes on with the block around it. -/
theorem WrittenItem.WellIndented.reaches {column dash : Nat} (deep : column ≤ dash) {item : WrittenItem}
    (well : item.WellIndented dash) {line : Line} (member : line ∈ item.lines) :
    (isSilent line || continuesBlock column line) = true := by
  have level := well.level
  rcases List.mem_cons.mp member with rfl | below
  · -- The dash may stand at the column of the block itself.
    refine Bool.or_eq_true_iff.mpr (.inr ?_)
    apply continuesBlock_mono deep
    simp [continuesBlock, level, well.starts]
  · rcases well.deeper line below with silent | deeper
    · simp [silent]
    · refine Bool.or_eq_true_iff.mpr (.inr (continuesBlock_mono deep ?_))
      simp [continuesBlock, deeper]

/-- Without other lines among them, lines that reach make up a body but for the silent ones at the
end. -/
theorem blockBody_of_all {column : Nat} {inside : List Line}
    (reach : ∀ line ∈ inside, (isSilent line || continuesBlock column line) = true) :
    blockBody column inside = inside.rdropWhile isSilent := by
  -- The body ends with the first line that does not reach, and there is none.
  rw [blockBody_eq_rdropWhile, List.takeWhile_eq_self_iff.mpr reach]

/-- The silent lines at the end do not matter to what is picked from the others. -/
theorem filter_zipIdx_rdropWhile {keep : NumberedLine → Bool}
    (quiet : ∀ line number, isSilent line = true → keep (line, number) = false)
    (text : List Line) (start : Nat) :
    ((text.rdropWhile isSilent).zipIdx start).filter keep = (text.zipIdx start).filter keep := by
  have split : text.rdropWhile isSilent ++ text.rtakeWhile isSilent = text :=
    List.rdropWhile_append_rtakeWhile
  -- The lines that are cut off keep their numbers, but none of them is picked.
  conv_rhs => rw [← split, List.zipIdx_append, List.filter_append]
  have none : ((text.rtakeWhile isSilent).zipIdx
      (start + (text.rdropWhile isSilent).length)).filter keep = [] := by
    rw [List.filter_eq_nil_iff]
    rintro ⟨line, number⟩ member
    have silent := List.mem_rtakeWhile_imp (List.fst_mem_of_mem_zipIdx member)
    simp [quiet line number silent]
  rw [none, List.append_nil]

/-- The dashes of one item at the column of the sequence: only its own. -/
theorem filter_dash_lines {dash : Nat} {item : WrittenItem} (well : item.WellIndented dash) (start : Nat) :
    ((item.lines.zipIdx start).filter fun line => startsItem line && indent line.1 == dash) =
      [(item.first, start)] := by
  -- The first line is a dash at the column, and the others are silent or deeper.
  have own : (startsItem (item.first, start) && indent item.first == dash) = true := by
    simp [startsItem, well.spoken, well.starts, well.level]
  rw [WrittenItem.lines, List.zipIdx_cons, List.filter_cons, if_pos own, List.cons.injEq]
  refine ⟨rfl, ?_⟩
  rw [List.filter_eq_nil_iff]
  rintro ⟨line, number⟩ member
  rcases well.deeper line (List.fst_mem_of_mem_zipIdx member) with silent | deeper
  · simp [startsItem, silent]
  · simp [startsItem, show indent line ≠ dash by omega]

/-- The dashes of all items at the column of the sequence: one each. -/
theorem filter_dash_items {dash : Nat} {items : List WrittenItem}
    (well : ∀ item ∈ items, item.WellIndented dash) (start : Nat) :
    (((items.flatMap WrittenItem.lines).zipIdx start).filter fun line =>
        startsItem line && indent line.1 == dash) =
      (placedItems start items).map fun placed => (placed.1.first, placed.2) := by
  -- Induction on the items: the dashes of the first one, and then those of the others further down.
  induction items generalizing start with
  | nil => rfl
  | cons item items ih =>
    rw [List.flatMap_cons, List.zipIdx_append, List.filter_append, filter_dash_lines (well item (by simp)),
      ih (fun other member => well other (by simp [member]))]
    rfl

/-- What stands behind the last line that says something is silent. -/
theorem isSilent_behind_rdropWhile {text : List Line} {start number : Nat} {line : Line}
    (member : (line, number) ∈ text.zipIdx start)
    (behind : start + (text.rdropWhile isSilent).length ≤ number) : isSilent line = true := by
  have split : text.rdropWhile isSilent ++ text.rtakeWhile isSilent = text :=
    List.rdropWhile_append_rtakeWhile
  rw [← split, List.zipIdx_append, List.mem_append] at member
  -- A number behind the kept lines is that of a line that is cut off.
  rcases member with kept | cut
  · have := (List.mem_zipIdx kept).2.1
    omega
  · exact List.mem_rtakeWhile_imp (List.fst_mem_of_mem_zipIdx cut)

/-- A line of an item that says something stands no further down than the body reaches. -/
theorem WrittenItem.place_le_length_body {item : WrittenItem} {place : Nat} {line : Line}
    (at_ : item.lines[place]? = some line) (spoken : isSilent line = false) : place ≤ item.body.length := by
  cases place with
  | zero => exact Nat.zero_le _
  | succ place =>
    -- Behind the body all lines are silent.
    by_contra behind
    have member : (line, place) ∈ item.rest.zipIdx := List.mem_zipIdx_iff_getElem?.mpr at_
    have silent := isSilent_behind_rdropWhile member (by unfold WrittenItem.body at behind; omega)
    rw [spoken] at silent
    exact absurd silent (by decide)

/-- Below a dash, the last line that says something ends the body of the item. -/
theorem last_spoken_rest (rest : List Line) (start : Nat) :
    ((rest.zipIdx (start + 1)).filter fun line => !isSilent line.1).getLast?.map (·.2) =
      if (rest.rdropWhile isSilent).length = 0 then none
      else some (start + (rest.rdropWhile isSilent).length) := by
  -- From the right, silent lines count on neither side, and any other line is the last on both.
  induction rest using List.reverseRecOn with
  | nil => rfl
  | append_singleton rest last ih =>
    rw [List.zipIdx_append, List.filter_append]
    cases silent : isSilent last with
    | true => simpa [silent, List.rdropWhile_concat_pos] using ih
    | false =>
      rw [List.rdropWhile_concat_neg _ _ _ (by simp [silent])]
      simp [silent]
      omega

/-- Among lines of other items, those from an item's dash to its stop that say something are its own. -/
theorem filter_between_item {front later : List NumberedLine} {item : WrittenItem} {start stop : Nat}
    (early : ∀ line ∈ front, line.2 < start) (late : ∀ line ∈ later, stop ≤ line.2)
    (room : ∀ line ∈ item.rest.zipIdx (start + 1), stop ≤ line.2 → isSilent line.1 = true) :
    ((front ++ (item.lines.zipIdx start ++ later)).filter fun line =>
        start < line.2 && line.2 < stop && !isSilent line.1) =
      (item.rest.zipIdx (start + 1)).filter fun line => !isSilent line.1 := by
  have before : (front.filter fun line => start < line.2 && line.2 < stop && !isSilent line.1) = [] := by
    rw [List.filter_eq_nil_iff]
    intro line member
    have := early line member
    simp [show ¬ start < line.2 by omega]
  have after : (later.filter fun line => start < line.2 && line.2 < stop && !isSilent line.1) = [] := by
    rw [List.filter_eq_nil_iff]
    intro line member
    have := late line member
    simp [show ¬ line.2 < stop by omega]
  rw [List.filter_append, List.filter_append, before, after, List.nil_append, List.append_nil,
    WrittenItem.lines, List.zipIdx_cons, List.filter_cons_of_neg (by simp)]
  -- Below the dash, a line that says something stands before the stop.
  apply List.filter_congr
  intro line member
  have above := (List.mem_zipIdx member).1
  cases silent : isSilent line.1 with
  | true => simp
  | false =>
    have inside : line.2 < stop := by
      by_contra beyond
      simp [room line member (by omega)] at silent
    simp [inside, show start < line.2 by omega]

/-- Among lines of other items, the last spoken line of an item is the end of its body. -/
theorem lastSpoken_item {front later : List NumberedLine} {item : WrittenItem} {start stop : Nat}
    (early : ∀ line ∈ front, line.2 < start) (late : ∀ line ∈ later, stop ≤ line.2)
    (room : ∀ line ∈ item.rest.zipIdx (start + 1), stop ≤ line.2 → isSilent line.1 = true) :
    lastSpoken (front ++ (item.lines.zipIdx start ++ later)) start stop = start + item.body.length := by
  have last := last_spoken_rest item.rest start
  unfold lastSpoken
  rw [filter_between_item early late room]
  unfold WrittenItem.body
  cases found : ((item.rest.zipIdx (start + 1)).filter fun line => !isSilent line.1).getLast? with
  | none =>
    -- An item that says nothing below its dash ends on the line of the dash.
    rw [found] at last
    split at last
    · rename_i empty
      rw [empty]
      rfl
    · simp at last
  | some line =>
    rw [found] at last
    split at last
    · simp at last
    · simpa using last

/-- The spans of written items, whatever stands before the first of them. -/
theorem spansFrom_placedItems (items : List WrittenItem) {front : List NumberedLine} {start stop : Nat}
    (early : ∀ line ∈ front, line.2 < start)
    (room : ∀ line ∈ (items.flatMap WrittenItem.lines).zipIdx start, stop ≤ line.2 → isSilent line.1 = true) :
    spansFrom (front ++ (items.flatMap WrittenItem.lines).zipIdx start) stop
        ((placedItems start items).map (·.2)) =
      (placedItems start items).map fun placed => placed.1.spanAt placed.2 := by
  -- Induction on the items, with everything above the first of them in front.
  induction items generalizing front start with
  | nil => rfl
  | cons item items ih =>
    rw [List.flatMap_cons, List.zipIdx_append] at room ⊢
    have ownRoom : ∀ line ∈ item.rest.zipIdx (start + 1), stop ≤ line.2 → isSilent line.1 = true :=
      fun line member => room line (by simp [WrittenItem.lines, member])
    cases items with
    | nil =>
      -- The last item stops with the block.
      simp only [placedItems, List.map_cons, List.map_nil, spansFrom, WrittenItem.spanAt,
        List.flatMap_nil, List.zipIdx_nil]
      rw [lastSpoken_item early (by simp) ownRoom]
    | cons next rest =>
      -- Any other one stops where the next one starts, and the rest sees it as something above.
      have frontier : ∀ line ∈ front ++ item.lines.zipIdx start, line.2 < start + item.lines.length := by
        intro line member
        rcases List.mem_append.mp member with above | own
        · have := early line above
          omega
        · exact (List.mem_zipIdx own).2.1
      have later := ih frontier (fun line member => room line (List.mem_append_right _ member))
      rw [List.append_assoc] at later
      simp only [placedItems, List.map_cons, spansFrom] at later ⊢
      rw [later, lastSpoken_item early]
      · rfl
      · intro line member
        exact (List.mem_zipIdx member).1
      · intro line member beyond
        have := (List.mem_zipIdx member).2.1
        simp only [WrittenItem.lines, List.length_cons] at beyond
        omega

/-- Below a header, silent lines and lines that reach make up a block together with nothing of what closes it,
but for the silent ones at the end. -/
theorem blockBody_between {before gap inside after : List Line} {header : Line} {column : Nat}
    (still : ∀ line ∈ gap, isSilent line = true)
    (reach : ∀ line ∈ inside, (isSilent line || continuesBlock column line) = true)
    (closed : ClosesBlock column after) :
    blockBody column ((before ++ header :: (gap ++ inside ++ after)).drop (before.length + 1)) =
      (gap ++ inside).rdropWhile isSilent := by
  have below : (before ++ header :: (gap ++ inside ++ after)).drop (before.length + 1) = gap ++ inside ++ after := by
    rw [List.append_cons]
    exact List.drop_left' (by simp)
  -- Silent lines hold every block open, and the others hold this one.
  have all : ∀ line ∈ gap ++ inside, (isSilent line || continuesBlock column line) = true := by
    intro line member
    rcases List.mem_append.mp member with silent | within
    · simp [still line silent]
    · exact reach line within
  rw [below, blockBody_append closed, blockBody_of_all all]

/-- What is picked from such a block is picked from the lines behind the silent ones, if it says something. -/
theorem filter_blockLines_of_body {lines gap inside : List Line} {header : KeyPosition}
    (body : blockBody header.keyStart (lines.drop (header.line + 1)) = (gap ++ inside).rdropWhile isSilent)
    (still : ∀ line ∈ gap, isSilent line = true) {keep : NumberedLine → Bool}
    (quiet : ∀ line number, isSilent line = true → keep (line, number) = false) :
    (blockLines lines header).filter keep = (inside.zipIdx (header.line + 1 + gap.length)).filter keep := by
  have silent : (gap.zipIdx (header.line + 1)).filter keep = [] := by
    rw [List.filter_eq_nil_iff]
    rintro ⟨line, number⟩ member
    simp [quiet line number (still line (List.fst_mem_of_mem_zipIdx member))]
  -- The block differs from the lines only in silent ones at its end, and the gap is silent.
  rw [blockLines, body, filter_zipIdx_rdropWhile quiet, List.zipIdx_append, List.filter_append, silent,
    List.nil_append]

section Written

variable {s : WrittenSequence} {header : KeyPosition} {dash : Nat}

/-- The block of the header holds the gap and the items, but for silent lines at the end. -/
theorem blockBody_written (position : header.line = s.before.length)
    (written : s.WellIndented header.keyStart dash) :
    blockBody header.keyStart (s.lines.drop (header.line + 1)) =
      (s.gap ++ s.items.flatMap WrittenItem.lines).rdropWhile isSilent := by
  -- Each line of an item is deeper than its dash or is the dash at the column.
  rw [position, WrittenSequence.lines]
  refine blockBody_between written.gap ?_ written.closed
  intro line member
  obtain ⟨item, among, inside⟩ := List.mem_flatMap.mp member
  exact (written.items item among).reaches written.deep inside

/-- What is picked from the block of the header is picked from the items, if it says something. -/
theorem filter_blockLines_written (position : header.line = s.before.length)
    (written : s.WellIndented header.keyStart dash) (keep : NumberedLine → Bool)
    (quiet : ∀ line number, isSilent line = true → keep (line, number) = false) :
    (blockLines s.lines header).filter keep =
      ((s.items.flatMap WrittenItem.lines).zipIdx (s.before.length + 1 + s.gap.length)).filter keep := by
  -- The block starts with the gap, whose lines are silent and not picked.
  rw [filter_blockLines_of_body (blockBody_written position written) written.gap quiet, position]

/-- The starts of items are the dashes as written. -/
theorem itemStarts_written (position : header.line = s.before.length)
    (written : s.WellIndented header.keyStart dash) :
    itemStarts (blockLines s.lines header) =
      s.placed.map fun placed => (placed.1.first, placed.2) := by
  have starts := filter_blockLines_written position written startsItem
    (fun line number silent => by simp [startsItem, silent])
  have dashes := filter_blockLines_written position written
    (fun line => startsItem line && indent line.1 == dash)
    (fun line number silent => by simp [startsItem, silent])
  rw [filter_dash_items written.items] at dashes
  -- The column of the items is that of the first of them, and all dashes there are theirs.
  unfold WrittenSequence.placed
  cases items : s.items with
  | nil =>
    rw [items] at starts
    simp [itemStarts, starts, placedItems]
  | cons item rest =>
    have well := written.items item (by simp [items])
    have own : startsItem (item.first, s.before.length + 1 + s.gap.length) = true := by
      simp [startsItem, well.spoken, well.starts]
    have head : ((blockLines s.lines header).filter startsItem).head? =
        some (item.first, s.before.length + 1 + s.gap.length) := by
      rw [starts, items, List.flatMap_cons, WrittenItem.lines, List.cons_append, List.zipIdx_cons,
        List.filter_cons_of_pos own, List.head?_cons]
    rw [itemStarts_eq_filter head, well.level, dashes, items]

/-- One span for each item, from its dash to the last line of it that says something. -/
theorem blockItemSpans_written (position : header.line = s.before.length)
    (written : s.WellIndented header.keyStart dash) :
    blockItemSpans s.lines header = s.placed.map fun placed => placed.1.spanAt placed.2 := by
  have ends : blockEnd s.lines header = s.before.length + 1 +
      ((s.gap ++ s.items.flatMap WrittenItem.lines).rdropWhile isSilent).length := by
    rw [blockEnd, blockBody_written position written, position]
  -- The block and the lines of the items have the same spoken lines.
  have spoken : ∀ first stop, lastSpoken (blockLines s.lines header) first stop =
      lastSpoken ((s.items.flatMap WrittenItem.lines).zipIdx (s.before.length + 1 + s.gap.length)) first stop := by
    intro first stop
    unfold lastSpoken
    rw [filter_blockLines_written position written]
    intro line number silent
    simp [silent]
  rw [blockItemSpans, itemStarts_written position written, List.map_map, spansFrom_congr spoken]
  refine spansFrom_placedItems s.items (List.forall_mem_nil _) ?_
  rintro ⟨line, number⟩ member beyond
  have among : (line, number) ∈
      (s.gap ++ s.items.flatMap WrittenItem.lines).zipIdx (s.before.length + 1) := by
    rw [List.zipIdx_append]
    exact List.mem_append_right _ member
  exact isSilent_behind_rdropWhile among (ends ▸ beyond)

end Written

/-- Placing items keeps them all, in order. -/
theorem placedItems_map_fst (start : Nat) (items : List WrittenItem) :
    (placedItems start items).map (·.1) = items := by
  -- Induction on the items: the start only goes into the second components.
  induction items generalizing start with
  | nil => rfl
  | cons item items ih => simp [placedItems, ih]

/-- Every placed item stands on the lines that its number says. -/
theorem getElem?_of_mem_placedItems {items : List WrittenItem} {item : WrittenItem} {start number : Nat}
    (placed : (item, number) ∈ placedItems start items) {front : List Line} (above : front.length = start)
    (after : List Line) {place : Nat} (inside : place < item.lines.length) :
    (front ++ (items.flatMap WrittenItem.lines ++ after))[number + place]? = item.lines[place]? := by
  -- Induction on the items: it is the first one, or it stands below that one.
  induction items generalizing front start with
  | nil => simp [placedItems] at placed
  | cons first items ih =>
    rw [List.flatMap_cons, List.append_assoc]
    rw [placedItems, List.mem_cons] at placed
    rcases placed with same | later
    · obtain ⟨rfl, rfl⟩ := Prod.mk.inj same
      rw [List.getElem?_append_right (by omega), List.getElem?_append_left (by omega)]
      congr 1
      omega
    · rw [← List.append_assoc]
      exact ih later (by simp [above])

/-- The body of an item ends with its last line that says something. -/
theorem WrittenItem.getElem?_lastLine (item : WrittenItem) :
    item.lines[item.body.length]? = some item.lastLine := by
  -- The body is a first part of the rest, so its last line is a line of the item.
  unfold lines lastLine
  cases last : item.body.getLast? with
  | none =>
    rw [List.getLast?_eq_none_iff] at last
    simp [last]
  | some line =>
    obtain ⟨front, split⟩ := List.getLast?_eq_some_iff.mp last
    obtain ⟨silent, whole⟩ : item.body <+: item.rest := List.rdropWhile_prefix _ _
    rw [← whole, split]
    simp

/-- A placed item stands on its lines of the whole text. -/
theorem WrittenSequence.getElem?_of_placed {s : WrittenSequence} {item : WrittenItem} {start : Nat}
    (placed : (item, start) ∈ s.placed) {place : Nat} (inside : place < item.lines.length) :
    s.lines[start + place]? = item.lines[place]? := by
  -- What stands above the first item is the text before, the header and the gap.
  have above : (s.before ++ s.header :: s.gap).length = s.before.length + 1 + s.gap.length := by
    simp only [List.length_append, List.length_cons]
    omega
  rw [← getElem?_of_mem_placedItems placed above s.after inside, WrittenSequence.lines]
  simp

section Items

variable {s : WrittenSequence} {header : KeyPosition} {dash : Nat}

/-- No index but those of the items has an anchor. -/
theorem blockItemAnchor_written_outside (position : header.line = s.before.length)
    (written : s.WellIndented header.keyStart dash) {index : Int}
    (outside : index < 0 ∨ (s.items.length : Int) ≤ index) :
    blockItemAnchor s.lines header index = none := by
  -- There are as many starts as items.
  unfold blockItemAnchor
  split
  · rfl
  · have count : s.placed.length = s.items.length := by
      rw [← placedItems_map_fst (s.before.length + 1 + s.gap.length) s.items, List.length_map]
      rfl
    rw [itemStarts_written position written, List.getElem?_eq_none (by rw [List.length_map]; omega)]
    rfl

/-- An item is anchored at its dash. -/
theorem blockItemAnchor_written (position : header.line = s.before.length)
    (written : s.WellIndented header.keyStart dash) {index : Nat} {item : WrittenItem} {start : Nat}
    (placed : s.placed[index]? = some (item, start)) :
    s.lines[start]? = some item.first ∧
      ∃ anchor, blockItemAnchor s.lines header index = some anchor ∧ anchor.line = start ∧
        anchor.keyStart = dash ∧ anchor.keyEnd = dash + 1 := by
  have member := List.mem_of_getElem? placed
  -- The item is one of those written, and its dash is at the common column.
  have level : indent item.first = dash := by
    refine (written.items item ?_).level
    rw [← placedItems_map_fst (s.before.length + 1 + s.gap.length) s.items]
    exact List.mem_map_of_mem member
  have first := WrittenSequence.getElem?_of_placed member (by simp [WrittenItem.lines] : 0 < item.lines.length)
  refine ⟨first, itemAnchor (item.first, start), ?_, rfl, level, congrArg (· + 1) level⟩
  rw [blockItemAnchor, if_neg (by omega), itemStarts_written position written, Int.toNat_natCast,
    List.getElem?_map, placed]
  rfl

/-- The range of an item covers its own lines. -/
theorem itemRange_written {spans : List LineSpan}
    (same : spans = s.placed.map fun placed => placed.1.spanAt placed.2) (key : List Char) {index : Nat}
    {item : WrittenItem} {start : Nat} (placed : s.placed[index]? = some (item, start)) :
    itemRange s.lines spans[index]? key = item.rangeAt start := by
  -- The range ends with the last line of the item that says something.
  have within := (List.getElem?_eq_some_iff.mp item.getElem?_lastLine).1
  have last := WrittenSequence.getElem?_of_placed (List.mem_of_getElem? placed) within
  rw [item.getElem?_lastLine] at last
  rw [same, List.getElem?_map, placed]
  simp [itemRange, spanRange, WrittenItem.spanAt, WrittenItem.rangeAt, last]

end Items

/-- In a well-indented sequence the spans are exactly those of the items as written, each item is
anchored at its dash and no other index is, and if the header is that of a section, the range of
each item covers its own lines and nothing else. -/
theorem written_items_located (s : WrittenSequence) (header : KeyPosition) (dash : Nat)
    (position : header.line = s.before.length) (written : s.WellIndented header.keyStart dash) :
    s.placed.map (·.1) = s.items ∧
      blockItemSpans s.lines header = (s.placed.map fun placed => placed.1.spanAt placed.2) ∧
      (∀ index : Int, index < 0 ∨ (s.items.length : Int) ≤ index →
        blockItemAnchor s.lines header index = none) ∧
      (∀ index : Nat, ∀ item start, s.placed[index]? = some (item, start) →
        s.lines[start]? = some item.first ∧
          ∃ anchor, blockItemAnchor s.lines header index = some anchor ∧ anchor.line = start ∧
            anchor.keyStart = dash ∧ anchor.keyEnd = dash + 1) ∧
      ∀ key, locateKey s.lines key = some header →
        itemSpans s.lines key = (s.placed.map fun placed => placed.1.spanAt placed.2) ∧
          ∀ index : Nat, ∀ item start, s.placed[index]? = some (item, start) →
            itemRange s.lines (itemSpans s.lines key)[index]? key = item.rangeAt start := by
  have all : s.placed.map (·.1) = s.items := placedItems_map_fst _ _
  have spans := blockItemSpans_written position written
  refine ⟨all, spans, ?_, ?_, ?_⟩
  · intro index outside
    exact blockItemAnchor_written_outside position written outside
  · intro index item start placed
    exact blockItemAnchor_written position written placed
  · -- The items of a section are those of the block below its header.
    intro key found
    have same : itemSpans s.lines key = blockItemSpans s.lines header := by
      rw [itemSpans, found]
    rw [same]
    refine ⟨spans, ?_⟩
    intro index item start placed
    exact itemRange_written spans key placed

/-- Two releases below their key, the first of them with a list of its own. -/
def smallSequence : WrittenSequence where
  before := ["project: shop".toList]
  header := "releases:".toList
  gap := ["".toList, "  # charts".toList]
  items := [⟨"  - name: api".toList, ["    tags:".toList, "      - web".toList, "".toList]⟩,
    ⟨"  -".toList, ["    name: db".toList]⟩]
  after := ["".toList, "monitors: []".toList]

/-- The two releases are written at one column. -/
theorem smallSequence_wellIndented : smallSequence.WellIndented 0 2 := by
  -- Both items are checked line by line.
  refine ⟨by decide, by decide +kernel, ?_, by decide +kernel⟩
  intro item member
  simp only [smallSequence, List.mem_cons, List.not_mem_nil, or_false] at member
  rcases member with rfl | rfl
  · exact ⟨by decide +kernel, by decide +kernel, by decide +kernel⟩
  · exact ⟨by decide +kernel, by decide +kernel, by decide +kernel⟩

/-- So each of the two has its span, the first one without the blank line below it, and there is no
third. -/
theorem smallSequence_located :
    smallSequence.WellIndented 0 2 ∧
      locateKey smallSequence.lines "releases".toList = some ⟨1, 0, 8, 9, 9⟩ ∧
      itemSpans smallSequence.lines "releases".toList = [⟨4, 6⟩, ⟨8, 9⟩] ∧
      blockItemAnchor smallSequence.lines ⟨1, 0, 8, 9, 9⟩ 2 = none := by
  have found : locateKey smallSequence.lines "releases".toList = some ⟨1, 0, 8, 9, 9⟩ := by decide +kernel
  -- Where the section is found is computed, its spans and the absent third item are the general statement.
  obtain ⟨-, -, others, -, ofSection⟩ :=
    written_items_located smallSequence ⟨1, 0, 8, 9, 9⟩ 2 rfl smallSequence_wellIndented
  refine ⟨smallSequence_wellIndented, found, ?_, others 2 (.inr (by decide))⟩
  rw [(ofSection _ found).1]
  decide +kernel

end PlanLint
