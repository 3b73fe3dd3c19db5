import PlanLint.Proofs.Source.Columns
import PlanLint.Proofs.Rule.Document

/-! Every finding points inside the text. -/

namespace PlanLint

/-- A range starts and ends at columns of lines that a text has, and does not end before it starts. -/
structure TextRange.Inside (lines : List Line) (range : TextRange) : Prop where
  start : ∃ line, lines[range.start.line]? = some line ∧ range.start.character ≤ line.length
  stop : ∃ line, lines[range.stop.line]? = some line ∧ range.stop.character ≤ line.length
  ordered : range.start.line < range.stop.line ∨
    range.start.line = range.stop.line ∧ range.start.character ≤ range.stop.character

section Inside

variable {lines : List Line}

/-- A part of one line is inside the text if the line is there and has the columns. -/
theorem inside_onLine {number left right : Nat} {line : Line} (at_ : lines[number]? = some line)
    (ordered : left ≤ right) (within : right ≤ line.length) :
    (TextRange.onLine number left right).Inside lines where
  start := ⟨line, at_, Nat.le_trans ordered within⟩
  stop := ⟨line, at_, within⟩
  ordered := .inr ⟨rfl, ordered⟩

/-- A key that fits the text is inside it. -/
theorem KeyPosition.FitsIn.inside_keyRange {position : KeyPosition} (fits : position.FitsIn lines) :
    position.keyRange.Inside lines := by
  -- The range is on the line of the position, which has room for the key.
  obtain ⟨line, at_, own⟩ := fits
  exact inside_onLine at_ own.key own.keyStop

/-- So is its value. -/
theorem KeyPosition.FitsIn.inside_valueRange {position : KeyPosition} (fits : position.FitsIn lines) :
    position.valueRange.Inside lines := by
  -- The same line has room for the value.
  obtain ⟨line, at_, own⟩ := fits
  exact inside_onLine at_ own.value own.valueStop

/-- So is the rest of its line from the value on. -/
theorem KeyPosition.FitsIn.inside_lineRemainderRange {position : KeyPosition} {range : TextRange}
    (fits : position.FitsIn lines) (rest : lineRemainderRange lines position = some range) :
    range.Inside lines := by
  obtain ⟨line, at_, own⟩ := fits
  -- The rest of the line ends where the line does.
  rw [lineRemainderRange, at_, Option.map_some, Option.some.injEq] at rest
  subst rest
  exact inside_onLine at_ (Nat.le_trans own.value own.valueStop) (Nat.le_refl _)

/-- The start of a document that has a line is inside it. -/
theorem inside_documentStartRange (nonempty : lines ≠ []) : (documentStartRange lines).Inside lines := by
  -- The range is the whole first line.
  cases lines with
  | nil => exact absurd rfl nonempty
  | cons line rest => exact inside_onLine (List.getElem?_cons_zero ..) (Nat.zero_le _) (Nat.le_refl _)

/-- So is every whole line, since the start of the document stands in for a line that is not there. -/
theorem inside_lineRange (nonempty : lines ≠ []) (number : Int) : (lineRange lines number).Inside lines := by
  -- There may be no line with the number, before the text or behind it.
  unfold lineRange
  split
  · exact inside_documentStartRange nonempty
  · split
    · exact inside_documentStartRange nonempty
    · rename_i line at_
      exact inside_onLine at_ (Nat.zero_le _) (Nat.le_refl _)

/-- The lines of an item are inside the text. -/
theorem inside_spanRange {header : KeyPosition} {span : LineSpan} (item : IsItemSpan lines header span)
    (there : header.line < lines.length) : (spanRange lines span).Inside lines := by
  have ends := blockEnd_le_length there
  have ordered := item.ordered
  have inside := item.inside
  -- The block ends with the text at the latest, so both lines of the span are there.
  have first : lines[span.first]? = some lines[span.first] := List.getElem?_eq_getElem (by omega)
  have last : lines[span.last]? = some lines[span.last] := List.getElem?_eq_getElem (by omega)
  refine ⟨⟨_, first, Nat.zero_le _⟩, ⟨_, last, by simp [spanRange, last]⟩, ?_⟩
  rcases Nat.lt_or_eq_of_le ordered with less | same
  · exact .inl less
  · exact .inr ⟨same, Nat.zero_le _⟩

end Inside

section Places

variable {lines : List Line} {span : Option LineSpan} {anchor : TextRange}

/-- The places of an item are inside the text if its anchor is. -/
theorem itemPlaces_inside (anchored : anchor.Inside lines) :
    ItemPlaces (fun range _ => range.Inside lines) lines lines span span anchor anchor := by
  -- A field that is found fits the text, and any other place is the anchor.
  refine itemPlaces_of_located (P := fun range => range.Inside lines) anchored ?_
  intro key position found
  obtain ⟨item, -, found⟩ := Option.bind_eq_some_iff.mp found
  have fits : position.FitsIn lines := (locateKeyInSpan_eq_some found).2.2.fitsIn
  exact ⟨fits.inside_valueRange, fits.inside_keyRange, fun range rest => fits.inside_lineRemainderRange rest⟩

/-- So are the places inside the block of a monitor. -/
theorem nestedPlaces_inside (anchored : anchor.Inside lines) :
    NestedPlaces (fun range _ => range.Inside lines) lines lines span span anchor anchor := by
  -- A field of the block is a key that was found below another one, so it fits the text.
  have located : ∀ key position, span.bind (locateKeyInSpanUnder lines key "http".toList) = some position →
      position.FitsIn lines := by
    intro key position found
    obtain ⟨item, -, found⟩ := Option.bind_eq_some_iff.mp found
    obtain ⟨parent, -, found⟩ := Option.bind_eq_some_iff.mp found
    exact (locateKeyBelow_eq_some found).2.2.fitsIn
  have valued : ∀ key, (nestedValueRange lines span key "http".toList anchor).Inside lines :=
    fun key => range_or (P := fun range => range.Inside lines) anchored
      fun position found => (located key position found).inside_valueRange
  refine ⟨fun key _ => valued key, ?_⟩
  intro index
  unfold expectedCodeRange codeRange
  split
  · exact valued _
  · -- A code has a line of its own in a block sequence, and else the value of its key.
    rename_i position found
    cases element : blockItemAnchor lines position index with
    | none => exact (located _ position found).inside_valueRange
    | some code => exact (fitsIn_of_blockItemAnchor element).inside_valueRange

end Places

section Document

variable {lines : List Line}

/-- A key of the top level fits the text. -/
theorem fitsIn_of_locateKey {key : List Char} {position : KeyPosition}
    (found : locateKey lines key = some position) : position.FitsIn lines :=
  (locateKey_eq_some found).1.fitsIn

/-- A line with a position that fits the text is one of its lines. -/
theorem KeyPosition.FitsIn.line_lt {position : KeyPosition} (fits : position.FitsIn lines) :
    position.line < lines.length := by
  -- The position is on a line of the text, so its number is one of theirs.
  obtain ⟨line, at_, -⟩ := fits
  exact (List.getElem?_eq_some_iff.mp at_).1

/-- The fallback of a section is inside the text. -/
theorem inside_sectionFallback (nonempty : lines ≠ []) (key : List Char) :
    (sectionFallback lines key).Inside lines := by
  -- Without the key of the section its findings are reported at the start.
  unfold sectionFallback
  split
  · exact inside_documentStartRange nonempty
  · exact inside_lineRange nonempty _

/-- So are the ranges of its items. -/
theorem inside_itemRange (nonempty : lines ≠ []) (key : List Char) (index : Nat) :
    (itemRange lines (itemSpans lines key)[index]? key).Inside lines := by
  cases spanned : (itemSpans lines key)[index]? with
  | none => exact inside_sectionFallback nonempty key
  | some span =>
    -- A section with spans has a header, and the span is that of an item in its block.
    cases located : locateKey lines key with
    | none => simp [itemSpans, located] at spanned
    | some header =>
      exact inside_spanRange (isItemSpan_of_getElem? located spanned) (fitsIn_of_locateKey located).line_lt

/-- The places of hooks and of their commands are inside the text. -/
theorem hookPlaces_inside (nonempty : lines ≠ []) (key : List Char) :
    HookPlaces (fun range _ => range.Inside lines) lines lines (locateKey lines key) (locateKey lines key)
      (sectionFallback lines key) (sectionFallback lines key) := by
  have fallback := inside_sectionFallback nonempty key
  have located : ∀ hook position, (locateKey lines key).bind (locateChildKey lines hook) = some position →
      position.FitsIn lines := by
    intro hook position found
    obtain ⟨header, -, child⟩ := Option.bind_eq_some_iff.mp found
    exact (locateChildKey_eq_some child).2.2.1.fitsIn
  refine ⟨?_, ?_, ?_⟩
  · intro hook
    exact range_or (P := fun range => range.Inside lines) fallback
      fun position found => (located hook position found).inside_keyRange
  · intro hook
    exact range_or (P := fun range => range.Inside lines) fallback
      fun position found => (located hook position found).inside_valueRange
  · intro hook index
    unfold hookCommandRange commandRange commandSpans
    dsimp only
    -- A command has lines of its own, else the line of its hook, else the fallback.
    cases child : (locateKey lines key).bind (locateChildKey lines hook) with
    | none => exact fallback
    | some position =>
      cases spanned : (blockItemSpans lines position)[index]? with
      | none => exact inside_lineRange nonempty _
      | some span =>
        exact inside_spanRange (isItemSpan_of_mem (List.mem_of_getElem? spanned))
          (located hook position child).line_lt

/-- Everything that any rule can point at is inside a text that has a line. -/
theorem documentPlaces_inside (nonempty : lines ≠ []) :
    DocumentPlaces (fun range _ => range.Inside lines) lines lines := by
  have start := inside_documentStartRange nonempty
  refine ⟨?_, ?_, ?_⟩
  · unfold projectRange
    split
    · exact start
    · rename_i position found
      -- The value and the key of the project are both inside.
      have fits := fitsIn_of_locateKey found
      split
      · exact fits.inside_valueRange
      · exact fits.inside_keyRange
  · intro name
    exact range_or (P := fun range => range.Inside lines) start
      fun position found => (fitsIn_of_locateKey found).inside_keyRange
  · intro name
    refine ⟨?_, ?_, ?_, hookPlaces_inside nonempty name⟩
    · exact range_or (P := fun range => range.Inside lines) start
        fun position found => (fitsIn_of_locateKey found).inside_valueRange
    · intro index
      exact itemPlaces_inside (inside_itemRange nonempty name index)
    · intro index
      exact nestedPlaces_inside (inside_itemRange nonempty name index)

end Document

/-- The empty range at the start of a text. -/
def originRange : TextRange := .onLine 0 0 0

/-- In a text without lines every place is the start. -/
theorem documentPlaces_origin : DocumentPlaces (fun range _ => range = originRange) [] [] where
  project := rfl
  key _ := rfl
  sections _ :=
    -- No header is found, so there are no spans, and every fallback is the start of the document.
    { value := rfl
      items := fun _ => itemPlaces_anchor [] originRange
      nested := fun _ => nestedPlaces_anchor [] originRange
      hooks := ⟨fun _ => rfl, fun _ => rfl, fun _ _ => rfl⟩ }

/-- Every finding of the rules points inside the text, whether the text has to do with the document or
not; over a text without lines it points at the start. -/
theorem validateDocument_ranges_inside (document : Entries) (lines : List Line) (findings : List Diagnostic)
    (found : validateDocument document lines = .ok findings) :
    (lines ≠ [] → ∀ finding ∈ findings, finding.range.Inside lines) ∧
      (lines = [] → ∀ finding ∈ findings, finding.range = originRange) := by
  constructor
  · intro nonempty finding member
    -- The findings are alike to themselves, as far as all places are inside the text.
    have alike := alike_validateDocument (documentPlaces_inside nonempty) document
    rw [found] at alike
    exact alike.range_of_mem member
  · rintro rfl finding member
    have alike := alike_validateDocument documentPlaces_origin document
    rw [found] at alike
    exact alike.range_of_mem member

/-- A plan with a wrong URL, an empty repository and an unknown key. -/
def oddPlan : Entries :=
  [(.text "repositories", .list [.mapping [(.text "url", .text "nope")], .null]), (.text "extra", .int 1)]

/-- A text with a lone dash, and with a comment and blanks where the values would be. -/
def oddLines : List Line := ["repositories:", "- url:", "-", "extra: # odd  "].map String.toList

/-- What is found for the plan, with the ranges in the order in which they are pointed at. -/
def oddFindings (project name url object key : TextRange) : List Diagnostic :=
  [errorAt project "Missing required field: project",
    errorAt name "Repository missing required field: name",
    warningAt url "Invalid repository URL format",
    errorAt object "Repository 1 must be an object",
    warningAt key ("Unknown top-level key: 'extra'. Valid keys are: project, version, repositories, " ++
      "registries, releases, monitors, lifecycle")]

/-- All five findings are inside the text, the empty value of the URL at the end of its line, and
without a text they are all at its start. -/
theorem oddPlan_ranges_inside :
    (∀ finding ∈ oddFindings (.onLine 0 0 13) (.onLine 1 0 6) (.onLine 1 6 6) (.onLine 2 0 1) (.onLine 3 0 5),
        finding.range.Inside oddLines) ∧
      ∀ finding ∈ oddFindings originRange originRange originRange originRange originRange,
        finding.range = originRange := by
  -- The findings are computed, and that their ranges are inside comes from the general statement.
  have written : validateDocument oddPlan oddLines =
      .ok (oddFindings (.onLine 0 0 13) (.onLine 1 0 6) (.onLine 1 6 6) (.onLine 2 0 1) (.onLine 3 0 5)) := by
    decide +kernel
  have unwritten : validateDocument oddPlan [] =
      .ok (oddFindings originRange originRange originRange originRange originRange) := by
    decide +kernel
  exact ⟨(validateDocument_ranges_inside _ _ _ written).1 (by decide),
    (validateDocument_ranges_inside _ _ _ unwritten).2 rfl⟩

end PlanLint
