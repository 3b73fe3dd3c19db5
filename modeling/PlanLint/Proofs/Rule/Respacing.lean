import PlanLint.Proofs.Source.Respacing
import PlanLint.Proofs.Rule.Renumbering
import PlanLint.Proofs.Rule.Document

/-! Silent lines between those that say something move the findings and change nothing else. -/

namespace PlanLint

section Respaced

variable {f : Nat → Nat} {lines respaced : List Line} {span : Option LineSpan}

/-- A field of an item is found where it was. -/
theorem Respaced.bind_locateKeyInSpan (r : Respaced f lines respaced) {key : List Char} (plain : IsPlainKey key) :
    (span.map (·.renumber f)).bind (locateKeyInSpan respaced key) =
      (span.bind (locateKeyInSpan lines key)).map (·.renumber f) := by
  -- Without an item nothing is looked up.
  cases span with
  | none => rfl
  | some item => exact r.locateKeyInSpan_eq plain item

/-- So is a field of a block inside the item. -/
theorem Respaced.bind_locateKeyInSpanUnder (r : Respaced f lines respaced) {key parent : List Char}
    (plain : IsPlainKey key) (outer : IsPlainKey parent) :
    (span.map (·.renumber f)).bind (locateKeyInSpanUnder respaced key parent) =
      (span.bind (locateKeyInSpanUnder lines key parent)).map (·.renumber f) := by
  -- The block around the field is found first, and the field is then looked up below it.
  cases span with
  | none => rfl
  | some item =>
    simp only [Option.map_some, Option.bind_some, locateKeyInSpanUnder, r.locateKeyInSpan_eq outer]
    cases locateKeyInSpan lines parent item with
    | none => rfl
    | some position => exact r.locateKeyBelow_eq plain position

/-- The places of an item follow its lines. -/
theorem Respaced.itemPlaces (r : Respaced f lines respaced) (anchor : TextRange) :
    ItemPlaces (Renumbered f) respaced lines (span.map (·.renumber f)) span (anchor.renumber f) anchor := by
  refine itemPlaces_renumbered (fun key plain => r.bind_locateKeyInSpan plain) ?_ anchor
  -- A field that is found stands on a line that says something.
  intro key position plain found
  obtain ⟨item, -, found⟩ := Option.bind_eq_some_iff.mp found
  obtain ⟨line, at_, matched⟩ := (locateKeyInSpan_eq_some found).2.2
  exact r.lineRemainderRange_eq at_ (isSilent_of_matchKey plain matched)

/-- So do the places inside the block of a monitor. -/
theorem Respaced.nestedPlaces (r : Respaced f lines respaced) (anchor : TextRange) :
    NestedPlaces (Renumbered f) respaced lines (span.map (·.renumber f)) span (anchor.renumber f) anchor :=
  nestedPlaces_renumbered (fun _ plain => r.bind_locateKeyInSpanUnder plain (by decide))
    (fun position index _ => r.blockItemAnchor_eq position index) anchor

/-- So do the places of hooks and of their commands. -/
theorem Respaced.hookPlaces (r : Respaced f lines respaced) (header : Option KeyPosition) (fallback : TextRange) :
    HookPlaces (Renumbered f) respaced lines (header.map (·.renumber f)) header (fallback.renumber f) fallback := by
  have located : ∀ hook, (header.map (·.renumber f)).bind (locateChildKey respaced hook) =
      (header.bind (locateChildKey lines hook)).map (·.renumber f) := by
    intro hook
    cases header with
    | none => rfl
    | some header => exact r.locateChildKey_eq hook header
  refine hookPlaces_renumbered located ?_ fallback
  intro hook position child
  -- The line of a hook says something, and so does the last line of each of its commands.
  obtain ⟨header, -, child⟩ := Option.bind_eq_some_iff.mp child
  obtain ⟨line, at_, spoken⟩ := exists_spoken_of_locateChildKey child
  refine ⟨r.lineRange_eq at_ spoken, r.blockItemSpans_eq position, ?_⟩
  intro span member
  obtain ⟨last, lastAt, loud⟩ := exists_spoken_last_of_mem member
  exact r.spanRange_eq lastAt loud

variable (start : documentStartRange respaced = (documentStartRange lines).renumber f)
include start

/-- The fallback of a section follows its line, if the start of the document does. -/
theorem Respaced.sectionFallback_eq (r : Respaced f lines respaced) (key : List Char) :
    sectionFallback respaced key = (sectionFallback lines key).renumber f := by
  unfold sectionFallback
  rw [r.locateKey_eq key]
  -- A section that is found has a line that says something, and any other one falls back to the start.
  cases found : locateKey lines key with
  | none => exact start
  | some header =>
    obtain ⟨line, at_, spoken⟩ := exists_spoken_of_locateKey found
    exact r.lineRange_eq at_ spoken

/-- So do the ranges of its items. -/
theorem Respaced.itemRange_eq (r : Respaced f lines respaced) (key : List Char) (index : Nat) :
    itemRange respaced ((itemSpans lines key)[index]?.map (·.renumber f)) key =
      (itemRange lines (itemSpans lines key)[index]? key).renumber f := by
  cases spanned : (itemSpans lines key)[index]? with
  | none => exact r.sectionFallback_eq start key
  | some span =>
    have member := List.mem_of_getElem? spanned
    unfold itemSpans at member
    -- A section with spans has a header, and each span ends on a line that says something.
    split at member
    · simp at member
    · obtain ⟨last, lastAt, loud⟩ := exists_spoken_last_of_mem member
      exact r.spanRange_eq lastAt loud

/-- So does everything that the check of a section can point at. -/
theorem Respaced.sectionPlaces (r : Respaced f lines respaced) (key : List Char) :
    SectionPlaces (Renumbered f) respaced lines key := by
  -- The header is found where it was, and so are the items in its block.
  have spans : itemSpans respaced key = (itemSpans lines key).map (·.renumber f) := by
    unfold itemSpans
    rw [r.locateKey_eq key]
    cases locateKey lines key with
    | none => rfl
    | some header => exact r.blockItemSpans_eq header
  refine ⟨?_, ?_, ?_, ?_⟩
  · unfold sectionValueRange
    rw [r.locateKey_eq key]
    cases locateKey lines key with
    | none => exact start
    | some header => rfl
  · intro index
    rw [spans, List.getElem?_map, r.itemRange_eq start]
    exact r.itemPlaces _
  · intro index
    rw [spans, List.getElem?_map, r.itemRange_eq start]
    exact r.nestedPlaces _
  · rw [r.locateKey_eq key, r.sectionFallback_eq start]
    exact r.hookPlaces _ _

/-- So does everything that any rule can point at. -/
theorem Respaced.documentPlaces (r : Respaced f lines respaced) :
    DocumentPlaces (Renumbered f) respaced lines := by
  refine ⟨?_, ?_, r.sectionPlaces start⟩
  · unfold projectRange
    rw [r.locateKey_eq]
    cases locateKey lines "project".toList with
    | none => exact start
    | some position =>
      -- The columns decide between value and key, and they are the same in both texts.
      simp only [Option.map_some]
      by_cases wide : position.valueStart < position.valueEnd
      · rw [if_pos wide, if_pos (by exact wide)]
        rfl
      · rw [if_neg wide, if_neg (by exact wide)]
        rfl
  · intro name
    unfold topLevelKeyRange
    rw [r.locateKey_eq]
    cases locateKey lines name with
    | none => exact start
    | some position => rfl

end Respaced

/-- A line that is put in below the first one leaves the start of the document. -/
theorem documentStartRange_insertIdx (lines : List Line) {place : Nat} (below : 0 < place) (line : Line) :
    documentStartRange (lines.insertIdx place line) =
      (documentStartRange lines).renumber (movedDownFrom place) := by
  -- The first line stays, and its number does.
  have first : (lines.insertIdx place line).head? = lines.head? := by
    rw [List.head?_eq_getElem?, List.head?_eq_getElem?, List.getElem?_insertIdx, if_pos below]
  have origin : movedDownFrom place 0 = 0 := if_pos below
  simp only [documentStartRange, first, TextRange.renumber, TextRange.onLine, origin]

/-- A line that says nothing, put in anywhere below the first line, moves the findings below it one
line down and changes nothing else. -/
theorem validateDocument_insert_silent (document : Entries) (lines : List Line) (place : Nat) (line : Line)
    (below : 0 < place) (silent : isSilent line = true) :
    Alike (Renumbered (movedDownFrom place)) (validateDocument document (lines.insertIdx place line))
      (validateDocument document lines) := by
  -- The first line stays the first, and all other places are moved alike.
  have start := documentStartRange_insertIdx lines below line
  exact alike_validateDocument ((respaced_insertIdx silent).documentPlaces start) document

/-- A plan with a wrong status code. -/
def codePlan : Entries :=
  [(.text "project", .text "shop"), (.text "monitors", .list
    [.mapping [(.text "name", .text "ping"), (.text "type", .text "http"), (.text "http", .mapping
      [(.text "url", .text "x"), (.text "expected_codes", .list [.int 200, .int 99])])]])]

/-- The plan as it is written, with the wrong code on the last line. -/
def codeLines : List Line :=
  ["project: shop", "monitors:", "- name: ping", "  type: http", "  http:", "    url: x", "    expected_codes:",
    "    - 200", "    - 99"].map String.toList

/-- What is found for the plan, if the wrong code is on a given line. -/
def wrongCodeFindings (number : Nat) : List Diagnostic :=
  [warningAt (.onLine number 6 8)
    "Invalid HTTP status code '99' in expected_codes. Expected an integer between 100 and 599"]

/-- A comment between the two codes, although it is indented like a key of the top level, only moves the
finding about the second one. -/
theorem codePlan_insert_comment :
    0 < 8 ∧ isSilent "# too low".toList = true ∧
      Alike (Renumbered (movedDownFrom 8)) (validateDocument codePlan (codeLines.insertIdx 8 "# too low".toList))
        (validateDocument codePlan codeLines) ∧
      validateDocument codePlan codeLines = .ok (wrongCodeFindings 8) ∧
      validateDocument codePlan (codeLines.insertIdx 8 "# too low".toList) = .ok (wrongCodeFindings 9) := by
  have silent : isSilent "# too low".toList = true := by decide +kernel
  -- Both validations are computed; that they are alike is the general statement.
  refine ⟨by decide, silent, ?_, by decide +kernel, by decide +kernel⟩
  exact validateDocument_insert_silent codePlan codeLines 8 "# too low".toList (by decide) silent

end PlanLint
