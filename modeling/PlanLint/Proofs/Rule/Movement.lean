import PlanLint.Proofs.Source.Surroundings
import PlanLint.Proofs.Rule.Renumbering

/-! A change of the text around a section only moves the findings about the section. -/

namespace PlanLint

/-- A range is another one moved down by a number of lines. -/
def Moved (count : Nat) (range base : TextRange) : Prop := range = base.renumber (· + count)

section Surroundings

variable {before middle after : List Line} {span : Option LineSpan}

/-- A field of an item is where it is in the part, moved down. -/
theorem bind_locateKeyInSpan_surrounded (inside : ∀ item, span = some item → item.last < middle.length)
    (key : List Char) :
    (span.map (·.renumber (· + before.length))).bind
        (locateKeyInSpan (before ++ middle ++ after) key) =
      (span.bind (locateKeyInSpan middle key)).map (·.renumber (· + before.length)) := by
  -- Without an item nothing is looked up; one that is there ends within the part.
  cases span with
  | none => rfl
  | some item => exact locateKeyInSpan_surrounded (inside item rfl) key

/-- So is a field of a block inside the item, if the block is closed. -/
theorem bind_locateKeyInSpanUnder_surrounded {parent : List Char}
    (inside : ∀ item, span = some item → item.last < middle.length)
    (shut : ∀ item position, span = some item → locateKeyInSpan middle parent item = some position →
      position.ShutIn middle after) (key : List Char) :
    (span.map (·.renumber (· + before.length))).bind
        (locateKeyInSpanUnder (before ++ middle ++ after) key parent) =
      (span.bind (locateKeyInSpanUnder middle key parent)).map (·.renumber (· + before.length)) := by
  -- The block around the field is found first, and the field is then looked up below it.
  cases span with
  | none => rfl
  | some item =>
    simp only [Option.map_some, Option.bind_some, locateKeyInSpanUnder,
      locateKeyInSpan_surrounded (inside item rfl)]
    cases found : locateKeyInSpan middle parent item with
    | none => rfl
    | some position => exact locateKeyBelow_surrounded (shut item position rfl found) key

/-- The places of an item are those in the part, moved down. -/
theorem itemPlaces_surrounded (inside : ∀ item, span = some item → item.last < middle.length)
    (anchor : TextRange) :
    ItemPlaces (Moved before.length) (before ++ middle ++ after) middle
      (span.map (·.renumber (· + before.length))) span (anchor.renumber (· + before.length)) anchor := by
  refine itemPlaces_renumbered (fun key _ => bind_locateKeyInSpan_surrounded inside key) ?_ anchor
  -- A field that is found stands on a line of the item, so its line is one of the part.
  intro key position _ found
  obtain ⟨item, spanned, found⟩ := Option.bind_eq_some_iff.mp found
  have within := inside item spanned
  obtain ⟨-, below, -⟩ := locateKeyInSpan_eq_some found
  exact lineRemainderRange_surrounded (Nat.lt_of_le_of_lt below within)

/-- So are the places inside the block of a monitor, if the block is closed. -/
theorem nestedPlaces_surrounded (inside : ∀ item, span = some item → item.last < middle.length)
    (shut : ∀ item position, span = some item → locateKeyInSpan middle "http".toList item = some position →
      position.ShutIn middle after) (anchor : TextRange) :
    NestedPlaces (Moved before.length) (before ++ middle ++ after) middle
      (span.map (·.renumber (· + before.length))) span (anchor.renumber (· + before.length)) anchor := by
  refine nestedPlaces_renumbered (fun key _ => bind_locateKeyInSpanUnder_surrounded inside shut key) ?_ anchor
  intro position index found
  -- The codes are items of a block that is closed because the one around it is.
  obtain ⟨item, spanned, found⟩ := Option.bind_eq_some_iff.mp found
  obtain ⟨parent, block, found⟩ := Option.bind_eq_some_iff.mp found
  obtain ⟨below, within, here⟩ := locateKeyBelow_eq_some found
  have closed := (shut item parent spanned block).of_isKeyAt below within here (by decide)
  exact blockItemAnchor_surrounded closed index

variable {header : KeyPosition}

/-- The places of hooks and of their commands are those in the part, moved down. -/
theorem hookPlaces_surrounded (shut : header.ShutIn middle after) (fallback : TextRange) :
    HookPlaces (Moved before.length) (before ++ middle ++ after) middle
      (some (header.renumber (· + before.length))) (some header) (fallback.renumber (· + before.length))
      fallback := by
  have located : ∀ hook, ((some header).map (·.renumber (· + before.length))).bind
      (locateChildKey (before ++ middle ++ after) hook) =
        ((some header).bind (locateChildKey middle hook)).map (·.renumber (· + before.length)) :=
    fun hook => locateChildKey_surrounded shut hook
  refine hookPlaces_renumbered located ?_ fallback
  intro hook position child
  -- The commands of the hook are items of a block that is closed with the section's.
  have closed := shut.of_child child
  refine ⟨lineRange_surrounded closed.inside, blockItemSpans_surrounded closed, ?_⟩
  intro span member
  have item := isItemSpan_of_mem member
  have ends := blockEnd_le_length closed.inside
  exact spanRange_surrounded (Nat.lt_of_lt_of_le item.inside ends)

section Section

variable {key : List Char}

/-- The items of a section are those in the part, moved down. -/
theorem itemSpans_surrounded (shut : header.ShutIn middle after) (own : locateKey middle key = some header)
    (found : locateKey (before ++ middle ++ after) key = some (header.renumber (· + before.length))) :
    itemSpans (before ++ middle ++ after) key =
      (itemSpans middle key).map (·.renumber (· + before.length)) := by
  -- The items are those in the block of the header, which moves as a whole.
  simp only [itemSpans, own, found, blockItemSpans_surrounded shut]

/-- The item with an index is one in the block of the section, so it ends within the part. -/
theorem isItemSpan_of_own (shut : header.ShutIn middle after) (own : locateKey middle key = some header)
    {index : Nat} {item : LineSpan} (spanned : (itemSpans middle key)[index]? = some item) :
    IsItemSpan middle header item ∧ item.last < middle.length := by
  -- An item ends before its block does, and the block before the part.
  have itself := isItemSpan_of_getElem? own spanned
  exact ⟨itself, Nat.lt_of_lt_of_le itself.inside (blockEnd_le_length shut.inside)⟩

/-- The fallback of a section is the one in the part, moved down. -/
theorem sectionFallback_surrounded (shut : header.ShutIn middle after)
    (own : locateKey middle key = some header)
    (found : locateKey (before ++ middle ++ after) key = some (header.renumber (· + before.length))) :
    sectionFallback (before ++ middle ++ after) key =
      (sectionFallback middle key).renumber (· + before.length) := by
  -- The line of the header is the same one, further down.
  simp only [sectionFallback, own, found]
  exact lineRange_surrounded shut.inside

/-- So are the ranges of its items. -/
theorem itemRange_surrounded (shut : header.ShutIn middle after) (own : locateKey middle key = some header)
    (found : locateKey (before ++ middle ++ after) key = some (header.renumber (· + before.length)))
    (index : Nat) :
    itemRange (before ++ middle ++ after)
        ((itemSpans middle key)[index]?.map (·.renumber (· + before.length))) key =
      (itemRange middle (itemSpans middle key)[index]? key).renumber (· + before.length) := by
  -- An item without a span is reported where the section is, and one with a span on its own lines.
  cases spanned : (itemSpans middle key)[index]? with
  | none => exact sectionFallback_surrounded shut own found
  | some span => exact spanRange_surrounded (isItemSpan_of_own shut own spanned).2

/-- Everything that the check of a section can point at is where it is in a part that starts with the
section and closes its block, moved down. -/
theorem sectionPlaces_surrounded (shut : header.ShutIn middle after)
    (own : locateKey middle key = some header)
    (found : locateKey (before ++ middle ++ after) key = some (header.renumber (· + before.length))) :
    SectionPlaces (Moved before.length) (before ++ middle ++ after) middle key := by
  have spans := itemSpans_surrounded shut own found
  have anchor := itemRange_surrounded shut own found
  have inside : ∀ (index : Nat) span, (itemSpans middle key)[index]? = some span →
      span.last < middle.length := fun _ _ spanned => (isItemSpan_of_own shut own spanned).2
  refine ⟨?_, ?_, ?_, ?_⟩
  · simp only [sectionValueRange, own, found]
    rfl
  · intro index
    rw [spans, List.getElem?_map, anchor]
    exact itemPlaces_surrounded (inside index) _
  · intro index
    rw [spans, List.getElem?_map, anchor]
    refine nestedPlaces_surrounded (inside index) ?_ _
    intro span position spanned block
    -- The block of a monitor is closed with that of the section.
    have itself := (isItemSpan_of_own shut own spanned).1
    have below := itself.below
    have within := itself.inside
    obtain ⟨above, under, here⟩ := locateKeyInSpan_eq_some block
    exact shut.of_isKeyAt (by omega) (by omega) here (by decide)
  · -- Hooks are looked up from the header, which is moved down with the part.
    rw [found, own, sectionFallback_surrounded shut own found]
    exact hookPlaces_surrounded shut _

end Section

end Surroundings

/-- A range has the columns of another one, on lines that are a distance further down. -/
structure MovedBy (distance : Int) (range other : TextRange) : Prop where
  start : (other.start.line : Int) = range.start.line + distance
  stop : (other.stop.line : Int) = range.stop.line + distance
  startColumn : other.start.character = range.start.character
  stopColumn : other.stop.character = range.stop.character

/-- The check of a section that starts with a part and ends in it tells what it tells of the part. -/
theorem check_surrounded (part : PlanSection) (document : Entries) {before middle after : List Line}
    {header : KeyPosition} (nonempty : middle ≠ [])
    (found : locateKey (before ++ middle ++ after) part.key.toList = some header)
    (first : header.line = before.length) (closed : ClosesBlock header.keyStart after) :
    Alike (Moved before.length) (part.check document (before ++ middle ++ after))
      (part.check document middle) := by
  -- In the part alone the section starts at the first line, and its block is closed by what follows the part.
  obtain ⟨start, own, top, rfl⟩ := locateKey_surrounded nonempty found first
  have shut : start.ShutIn middle after :=
    ⟨by rw [top]; exact List.length_pos_of_ne_nil nonempty, closed⟩
  exact alike_check part document (sectionPlaces_surrounded shut own found)

/-- If a section starts with the same part in two texts, and what follows the part closes its block in
both, then its check reports the same findings for both, as far apart as the two parts are. -/
theorem check_moves (part : PlanSection) (document : Entries)
    {before₁ before₂ middle after₁ after₂ : List Line} {header₁ header₂ : KeyPosition}
    (nonempty : middle ≠ [])
    (found₁ : locateKey (before₁ ++ middle ++ after₁) part.key.toList = some header₁)
    (found₂ : locateKey (before₂ ++ middle ++ after₂) part.key.toList = some header₂)
    (first₁ : header₁.line = before₁.length) (first₂ : header₂.line = before₂.length)
    (closed₁ : ClosesBlock header₁.keyStart after₁) (closed₂ : ClosesBlock header₂.keyStart after₂) :
    Alike (MovedBy ((before₂.length : Int) - before₁.length))
      (part.check document (before₁ ++ middle ++ after₁))
      (part.check document (before₂ ++ middle ++ after₂)) := by
  -- Both are compared with the check of the part alone.
  refine Alike.compose (check_surrounded part document nonempty found₁ first₁ closed₁)
    (check_surrounded part document nonempty found₂ first₂ closed₂) ?_
  rintro range other base rfl rfl
  refine ⟨?_, ?_, rfl, rfl⟩
  · simp only [TextRange.renumber]
    omega
  · simp only [TextRange.renumber]
    omega

/-- A lifecycle section as it is written. -/
def hookLines : List Line :=
  ["lifecycle:", "  pre_up:", "  - args: a", "  post_up: date"].map String.toList

/-- The hooks of that section. -/
def twoHooks : Entries :=
  [(.text "lifecycle", .mapping
    [(.text "pre_up", .list [.mapping [(.text "args", .text "a")]]), (.text "post_up", .text "date")])]

/-- The section is moved by one line when another one is written above it, whatever follows. -/
theorem twoHooks_move :
    locateKey ([] ++ hookLines ++ []) "lifecycle".toList = some ⟨0, 0, 9, 10, 10⟩ ∧
      locateKey (["project: shop".toList] ++ hookLines ++ ["".toList, "monitors: []".toList])
        "lifecycle".toList = some ⟨1, 0, 9, 10, 10⟩ ∧
      ClosesBlock 0 [] ∧ ClosesBlock 0 ["".toList, "monitors: []".toList] ∧
      Alike (MovedBy 1) (checkLifecycle twoHooks ([] ++ hookLines ++ []))
        (checkLifecycle twoHooks
          (["project: shop".toList] ++ hookLines ++ ["".toList, "monitors: []".toList])) := by
  -- Where the section is and that it is closed is computed; how it moves comes from the general statement.
  have found₁ : locateKey ([] ++ hookLines ++ []) "lifecycle".toList = some ⟨0, 0, 9, 10, 10⟩ := by
    decide +kernel
  have found₂ : locateKey (["project: shop".toList] ++ hookLines ++ ["".toList, "monitors: []".toList])
      "lifecycle".toList = some ⟨1, 0, 9, 10, 10⟩ := by decide +kernel
  have closed₁ : ClosesBlock 0 [] := by decide +kernel
  have closed₂ : ClosesBlock 0 ["".toList, "monitors: []".toList] := by decide +kernel
  exact ⟨found₁, found₂, closed₁, closed₂,
    check_moves .lifecycle twoHooks (by decide) found₁ found₂ rfl rfl closed₁ closed₂⟩

end PlanLint
