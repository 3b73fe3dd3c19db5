import PlanLint.Proofs.Source.Lookup
import PlanLint.Proofs.Rule.Sections

/-! Findings stay inside the block of their section, and those of an item inside the item. -/

namespace PlanLint

/-- A range starts and ends on lines from a first one up to a stop. -/
structure TextRange.OnLines (first stop : Nat) (range : TextRange) : Prop where
  start : first ≤ range.start.line ∧ range.start.line < stop
  stop : first ≤ range.stop.line ∧ range.stop.line < stop

/-- A part of one line is on that line. -/
theorem onLines_onLine {first stop number : Nat} (above : first ≤ number) (below : number < stop)
    (left right : Nat) : (TextRange.onLine number left right).OnLines first stop :=
  ⟨⟨above, below⟩, above, below⟩

/-- The range of a span is on its lines. -/
theorem onLines_spanRange {first stop : Nat} {lines : List Line} {span : LineSpan}
    (above : first ≤ span.first) (ordered : span.first ≤ span.last) (below : span.last < stop) :
    (spanRange lines span).OnLines first stop :=
  ⟨⟨above, Nat.lt_of_le_of_lt ordered below⟩, Nat.le_trans above ordered, below⟩

section Bounds

variable {first stop : Nat} {lines : List Line} {span : Option LineSpan} {anchor : TextRange}

/-- The places of an item are on lines that hold its anchor and its span. -/
theorem itemPlaces_onLines (anchored : anchor.OnLines first stop)
    (inside : ∀ item, span = some item → first ≤ item.first ∧ item.last < stop) :
    ItemPlaces (fun range _ => range.OnLines first stop) lines lines span span anchor anchor := by
  -- A field that is found stands on a line of the span, and any other place is the anchor.
  refine itemPlaces_of_located (P := fun range => range.OnLines first stop) anchored ?_
  intro key position found
  obtain ⟨item, spanned, found⟩ := Option.bind_eq_some_iff.mp found
  obtain ⟨above, below⟩ := inside item spanned
  obtain ⟨after, before, -⟩ := locateKeyInSpan_eq_some found
  have starts : first ≤ position.line := by omega
  have stops : position.line < stop := by omega
  refine ⟨onLines_onLine starts stops _ _, onLines_onLine starts stops _ _, ?_⟩
  intro range rest
  obtain ⟨line, -, rfl⟩ := Option.map_eq_some_iff.mp rest
  exact onLines_onLine starts stops _ _

/-- The places inside the block of a monitor are on lines that hold its anchor and that block. -/
theorem nestedPlaces_onLines (anchored : anchor.OnLines first stop)
    (inside : ∀ item position, span = some item →
      locateKeyInSpan lines "http".toList item = some position →
      first ≤ position.line ∧ blockEnd lines position ≤ stop) :
    NestedPlaces (fun range _ => range.OnLines first stop) lines lines span span anchor anchor := by
  -- A field that is found stands on a line of the block, and its own block ends no later.
  have located : ∀ key, IsPlainKey key → ∀ position,
      span.bind (locateKeyInSpanUnder lines key "http".toList) = some position →
        first ≤ position.line ∧ position.line < stop ∧ blockEnd lines position ≤ stop := by
    intro key plain position found
    obtain ⟨item, spanned, found⟩ := Option.bind_eq_some_iff.mp found
    obtain ⟨parent, block, found⟩ := Option.bind_eq_some_iff.mp found
    obtain ⟨above, below⟩ := inside item parent spanned block
    obtain ⟨under, within, here⟩ := locateKeyBelow_eq_some found
    have nested := (blockEnd_le_of_isKeyAt under within here (here.spoken plain)).2
    exact ⟨by omega, by omega, by omega⟩
  have valued : ∀ key, IsPlainKey key →
      (nestedValueRange lines span key "http".toList anchor).OnLines first stop := by
    intro key plain
    refine range_or (P := fun range => range.OnLines first stop) anchored ?_
    intro position found
    obtain ⟨above, below, -⟩ := located key plain position found
    exact onLines_onLine above below _ _
  refine ⟨valued, ?_⟩
  intro index
  unfold expectedCodeRange codeRange
  split
  · exact valued _ (by decide)
  · rename_i position found
    obtain ⟨above, below, ends⟩ := located _ (by decide) position found
    cases anchored : blockItemAnchor lines position index with
    | none => exact onLines_onLine above below _ _
    | some code =>
      -- A code in a block sequence is on a line of its own below the key.
      obtain ⟨under, within⟩ := blockItemAnchor_eq_some anchored
      rw [Option.getD_some]
      exact onLines_onLine (by omega) (by omega) _ _

end Bounds

section Block

variable {lines : List Line} {key : List Char} {header : KeyPosition}

/-- The line of a section's key is the fallback for everything in the section. -/
theorem sectionFallback_eq (found : locateKey lines key = some header) :
    ∃ line, lines[header.line]? = some line ∧
      sectionFallback lines key = .onLine header.line 0 line.length := by
  -- The key was found on a line of the text, which is the range that is reported.
  obtain ⟨⟨line, at_, -⟩, -⟩ := locateKey_eq_some found
  refine ⟨line, at_, ?_⟩
  simp only [sectionFallback, found]
  exact lineRange_eq at_

/-- The fallback of a section is in its block. -/
theorem onLines_sectionFallback (found : locateKey lines key = some header) :
    (sectionFallback lines key).OnLines header.line (blockEnd lines header) := by
  -- The block of a section starts with the line of its key.
  obtain ⟨line, -, same⟩ := sectionFallback_eq found
  rw [same]
  exact onLines_onLine (Nat.le_refl _) (line_lt_blockEnd lines header) _ _

/-- The range of an item is in the block of its section. -/
theorem onLines_itemRange (found : locateKey lines key = some header) (index : Nat) :
    (itemRange lines (itemSpans lines key)[index]? key).OnLines header.line (blockEnd lines header) := by
  -- An item lies in the block, and where there is none the section's fallback is taken.
  cases spanned : (itemSpans lines key)[index]? with
  | none => exact onLines_sectionFallback found
  | some span =>
    have item := isItemSpan_of_getElem? found spanned
    exact onLines_spanRange (Nat.le_of_lt item.below) item.ordered item.inside

/-- The places of an item are in the block of its section. -/
theorem itemPlaces_onBlock (found : locateKey lines key = some header) (index : Nat) :
    ItemPlaces (fun range _ => range.OnLines header.line (blockEnd lines header)) lines lines
      (itemSpans lines key)[index]? (itemSpans lines key)[index]?
      (itemRange lines (itemSpans lines key)[index]? key)
      (itemRange lines (itemSpans lines key)[index]? key) := by
  -- The item is in the block of its section, and its places are in the item.
  refine itemPlaces_onLines (onLines_itemRange found index) ?_
  intro span spanned
  have item := isItemSpan_of_getElem? found spanned
  exact ⟨Nat.le_of_lt item.below, item.inside⟩

/-- So are the places inside the block of a monitor. -/
theorem nestedPlaces_onBlock (found : locateKey lines key = some header) (index : Nat) :
    NestedPlaces (fun range _ => range.OnLines header.line (blockEnd lines header)) lines lines
      (itemSpans lines key)[index]? (itemSpans lines key)[index]?
      (itemRange lines (itemSpans lines key)[index]? key)
      (itemRange lines (itemSpans lines key)[index]? key) := by
  refine nestedPlaces_onLines (onLines_itemRange found index) ?_
  intro span position spanned block
  have item := isItemSpan_of_getElem? found spanned
  have below := item.below
  have inside := item.inside
  obtain ⟨after, before, here⟩ := locateKeyInSpan_eq_some block
  have under : header.line < position.line := by omega
  have within : position.line < blockEnd lines header := by omega
  -- The nested key lies below the section's and in its block, and so does its own block.
  have nested := (blockEnd_le_of_isKeyAt under within here (here.spoken (by decide))).2
  exact ⟨Nat.le_of_lt under, nested⟩

/-- The places of hooks and of their commands are in the block of the section. -/
theorem hookPlaces_onBlock (found : locateKey lines key = some header) :
    HookPlaces (fun range _ => range.OnLines header.line (blockEnd lines header)) lines lines
      (locateKey lines key) (locateKey lines key) (sectionFallback lines key)
      (sectionFallback lines key) := by
  have fallback := onLines_sectionFallback found
  rw [found]
  have located : ∀ hook position, (some header).bind (locateChildKey lines hook) = some position →
      header.line ≤ position.line ∧ position.line < blockEnd lines header := by
    intro hook position child
    obtain ⟨below, inside, -⟩ := locateChildKey_eq_some child
    exact ⟨Nat.le_of_lt below, inside⟩
  refine ⟨?_, ?_, ?_⟩
  · intro hook
    exact range_or (P := fun range => range.OnLines header.line (blockEnd lines header)) fallback
      fun position child => onLines_onLine (located hook position child).1 (located hook position child).2 _ _
  · intro hook
    exact range_or (P := fun range => range.OnLines header.line (blockEnd lines header)) fallback
      fun position child => onLines_onLine (located hook position child).1 (located hook position child).2 _ _
  · intro hook index
    unfold hookCommandRange
    simp only [Option.bind_some]
    cases child : locateChildKey lines hook header with
    | none => exact fallback
    | some position =>
      obtain ⟨below, inside, ⟨line, at_, -⟩, -, nested⟩ := locateChildKey_eq_some child
      unfold commandRange commandSpans
      cases spanned : (blockItemSpans lines position)[index]? with
      | none =>
        -- A command without a span is reported on the line of its hook.
        simp only [lineRange_eq at_]
        exact onLines_onLine (Nat.le_of_lt below) inside _ _
      | some span =>
        have item := isItemSpan_of_mem (List.mem_of_getElem? spanned)
        have under := item.below
        have within := item.inside
        exact onLines_spanRange (by omega) item.ordered (by omega)

/-- Everything that the check of a section can point at is in the block of the section. -/
theorem sectionPlaces_onBlock (found : locateKey lines key = some header) :
    SectionPlaces (fun range _ => range.OnLines header.line (blockEnd lines header)) lines lines key := by
  -- The value of the section is on its own line; items, monitors and hooks have their own lemmas.
  refine ⟨?_, itemPlaces_onBlock found, nestedPlaces_onBlock found, hookPlaces_onBlock found⟩
  simp only [sectionValueRange, found]
  exact onLines_onLine (Nat.le_refl _) (line_lt_blockEnd lines header) _ _

end Block

/-- A range is the whole line of a section's key, or the start of the document if there is no key. -/
def IsSectionLine (lines : List Line) (key : List Char) (range : TextRange) : Prop :=
  match locateKey lines key with
  | none => range = documentStartRange lines
  | some header => ∃ line, lines[header.line]? = some line ∧ range = .onLine header.line 0 line.length

/-- The fallback of a section is the line of its key. -/
theorem isSectionLine_sectionFallback (lines : List Line) (key : List Char) :
    IsSectionLine lines key (sectionFallback lines key) := by
  -- The two speak of the same look-up of the section's key.
  unfold IsSectionLine
  split
  · rename_i absent
    simp only [sectionFallback, absent]
  · rename_i header found
    exact sectionFallback_eq found

/-- The range of a finding about one item of a sequence: the line of the section's key if the item has
no span, and otherwise lines of the span, for a monitor if what it says is deeper than its dash. -/
def IsItemRange (lines : List Line) (part : SequenceSection) (index : Nat) (range : TextRange) : Prop :=
  match (itemSpans lines part.key.toList)[index]? with
  | none => IsSectionLine lines part.key.toList range
  | some span => (part = .monitors → DeeperThanDash lines span) → range.OnLines span.first (span.last + 1)

/-- Without a span the rule for an item only points at its anchor. -/
theorem range_eq_anchor_of_mem {part : SequenceSection} {lines : List Line} {anchor : TextRange}
    {index : Nat} {item : Value} {run : List Diagnostic}
    (found : part.itemFindings lines none anchor index item = .ok run) {finding : Diagnostic}
    (member : finding ∈ run) : finding.range = anchor := by
  -- All its places are the anchor then, so the findings are alike to themselves at it.
  have alike := alike_itemFindings part (itemPlaces_anchor lines anchor)
    (fun _ => nestedPlaces_anchor lines anchor) index item
  rw [found] at alike
  exact alike.range_of_mem member

/-- The rule for an item with a span only points at lines of the span, if a monitor says nothing at the
column of its dash. -/
theorem onLines_span_of_mem {part : SequenceSection} {lines : List Line} {header : KeyPosition}
    {span : LineSpan} (itself : IsItemSpan lines header span)
    (deeper : part = .monitors → DeeperThanDash lines span) {index : Nat} {item : Value}
    {run : List Diagnostic}
    (found : part.itemFindings lines (some span) (spanRange lines span) index item = .ok run)
    {finding : Diagnostic} (member : finding ∈ run) :
    finding.range.OnLines span.first (span.last + 1) := by
  have anchored : (spanRange lines span).OnLines span.first (span.last + 1) :=
    onLines_spanRange (Nat.le_refl _) itself.ordered (Nat.lt_succ_self _)
  have places : ItemPlaces (fun range _ => range.OnLines span.first (span.last + 1)) lines lines
      (some span) (some span) (spanRange lines span) (spanRange lines span) := by
    refine itemPlaces_onLines anchored ?_
    intro other same
    obtain rfl := Option.some.inj same
    exact ⟨Nat.le_refl _, Nat.lt_succ_self _⟩
  have nested : part = .monitors →
      NestedPlaces (fun range _ => range.OnLines span.first (span.last + 1)) lines lines
        (some span) (some span) (spanRange lines span) (spanRange lines span) := by
    intro monitors
    refine nestedPlaces_onLines anchored ?_
    intro other position same block
    obtain rfl := Option.some.inj same
    -- The block of a monitor ends with the item because it starts deeper than the dash.
    obtain ⟨above, below, here⟩ := locateKeyInSpan_eq_some block
    exact ⟨above, blockEnd_le_of_isItemSpan itself (deeper monitors) above below here
      (here.spoken (by decide))⟩
  have alike := alike_itemFindings part places nested index item
  rw [found] at alike
  exact alike.range_of_mem member

/-- Every finding of the rule for an item has a range of that item. -/
theorem isItemRange_of_mem {part : SequenceSection} {lines : List Line} {index : Nat} {item : Value}
    {run : List Diagnostic}
    (found : part.itemFindings lines (itemSpans lines part.key.toList)[index]?
      (itemRange lines (itemSpans lines part.key.toList)[index]? part.key.toList) index item = .ok run)
    {finding : Diagnostic} (member : finding ∈ run) : IsItemRange lines part index finding.range := by
  unfold IsItemRange
  cases spanned : (itemSpans lines part.key.toList)[index]? with
  | none =>
    rw [spanned] at found
    rw [range_eq_anchor_of_mem found member]
    exact isSectionLine_sectionFallback lines _
  | some span =>
    intro deeper
    rw [spanned] at found
    -- A section with spans has a header, and the span is that of an item in its block.
    cases located : locateKey lines part.key.toList with
    | none => simp [itemSpans, located] at spanned
    | some header => exact onLines_span_of_mem (isItemSpan_of_getElem? located spanned) deeper found member

/-- The findings of a section with a header lie in its block. The findings of a sequence come item by
item, and those of an item lie in its span, or on the line of the header if it has none. -/
theorem check_findings_located (part : PlanSection) (document : Entries) (lines : List Line)
    (findings : List Diagnostic) (found : part.check document lines = .ok findings) :
    (∀ header, locateKey lines part.key.toList = some header →
      ∀ finding ∈ findings, finding.range.OnLines header.line (blockEnd lines header)) ∧
    ∀ sequence items, part = .sequence sequence → valueUnder document sequence.key = .list items →
      ∃ runs : List (List Diagnostic), findings = runs.flatten ∧ runs.length = items.length ∧
        ∀ index item run, items[index]? = some item → runs[index]? = some run →
          sequence.itemFindings lines (itemSpans lines sequence.key.toList)[index]?
              (itemRange lines (itemSpans lines sequence.key.toList)[index]? sequence.key.toList)
              index item = .ok run ∧
            ∀ finding ∈ run, IsItemRange lines sequence index finding.range := by
  constructor
  · intro header located finding member
    -- The check is alike to itself as far as its places are in the block.
    have alike := alike_check part document (sectionPlaces_onBlock located)
    rw [found] at alike
    exact alike.range_of_mem member
  · rintro sequence items rfl listed
    rw [check_sequence] at found
    simp only [sequenceFindings, listed] at found
    obtain ⟨runs, whole, count, each⟩ := gather_zipIdx_eq_ok found
    refine ⟨runs, whole, count, ?_⟩
    intro index item run here ran
    have own := each index item run here ran
    exact ⟨own, fun finding member => isItemRange_of_mem own member⟩

/-- A plan with three monitors, of which only the first is a mapping. -/
def threeMonitors : Entries :=
  [(.text "monitors", .list
    [.mapping [(.text "name", .text "ping"), (.text "type", .text "http"), (.text "http", .mapping
      [(.text "url", .text "x"), (.text "expected_codes", .list [.int 99])])],
      .text "pong", .null])]

/-- A text with only two of them. -/
def twoMonitorLines : List Line :=
  ["project: shop", "monitors:", "- name: ping", "  type: http", "  http:", "    url: x", "    expected_codes:",
    "    - 99", "", "- pong", "lifecycle: null"].map String.toList

/-- What is found: one finding for each monitor, the last of them on the line of the key. -/
def threeMonitorsFindings : List Diagnostic :=
  [warningAt (.onLine 7 6 8)
      "Invalid HTTP status code '99' in expected_codes. Expected an integer between 100 and 599",
    errorAt ⟨⟨9, 0⟩, ⟨9, 6⟩⟩ "Monitor 1 must be an object",
    errorAt (.onLine 1 0 9) "Monitor 2 must be an object"]

/-- All three are in the block of the section, and there is a run of findings for each monitor. -/
theorem threeMonitors_located :
    (PlanSection.sequence .monitors).check threeMonitors twoMonitorLines = .ok threeMonitorsFindings ∧
      (∀ finding ∈ threeMonitorsFindings, finding.range.OnLines 1 10) ∧
      ∃ runs : List (List Diagnostic), threeMonitorsFindings = runs.flatten ∧ runs.length = 3 := by
  -- The check, the header and the end of its block are computed.
  have found : (PlanSection.sequence .monitors).check threeMonitors twoMonitorLines =
      .ok threeMonitorsFindings := by decide +kernel
  have header : locateKey twoMonitorLines "monitors".toList = some ⟨1, 0, 8, 9, 9⟩ := by decide +kernel
  have stop : blockEnd twoMonitorLines ⟨1, 0, 8, 9, 9⟩ = 10 := by decide +kernel
  obtain ⟨block, each⟩ := check_findings_located (.sequence .monitors) _ _ _ found
  obtain ⟨runs, whole, count, -⟩ := each .monitors _ rfl rfl
  exact ⟨found, stop ▸ block _ header, runs, whole, count⟩

end PlanLint
