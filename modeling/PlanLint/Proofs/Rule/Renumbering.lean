import PlanLint.Proofs.Source.Renumbering
import PlanLint.Proofs.Rule.Sections

/-! What the rules can point at follows its lines if what they look up does. -/

namespace PlanLint

/-- A range is another one on lines with other numbers. -/
def Renumbered (f : Nat → Nat) (range base : TextRange) : Prop := range = base.renumber f

section Renumbered

variable {f : Nat → Nat} {moved lines : List Line} {span : Option LineSpan}

/-- The places of an item follow its lines if its fields do. -/
theorem itemPlaces_renumbered
    (located : ∀ key, IsPlainKey key → (span.map (·.renumber f)).bind (locateKeyInSpan moved key) =
      (span.bind (locateKeyInSpan lines key)).map (·.renumber f))
    (rest : ∀ key position, IsPlainKey key → span.bind (locateKeyInSpan lines key) = some position →
      lineRemainderRange moved (position.renumber f) = (lineRemainderRange lines position).map (·.renumber f))
    (anchor : TextRange) :
    ItemPlaces (Renumbered f) moved lines (span.map (·.renumber f)) span (anchor.renumber f) anchor := by
  -- A field that is found has its place renumbered; without one the anchor is, and that was already.
  refine ⟨rfl, ?_, ?_, ?_⟩
  · intro key plain
    unfold fieldValueRange
    rw [located key plain]
    cases span.bind (locateKeyInSpan lines key) <;> rfl
  · intro key plain
    unfold fieldKeyRange
    rw [located key plain]
    cases span.bind (locateKeyInSpan lines key) <;> rfl
  · intro key plain
    unfold fieldRestRange
    rw [located key plain]
    cases found : span.bind (locateKeyInSpan lines key) with
    | none => rfl
    | some position =>
      simp only [Option.map_some, Option.bind_some, rest key position plain found]
      cases lineRemainderRange lines position <;> rfl

/-- The places inside the block of a monitor follow its lines if its fields and the expected codes do. -/
theorem nestedPlaces_renumbered
    (located : ∀ key, IsPlainKey key →
      (span.map (·.renumber f)).bind (locateKeyInSpanUnder moved key "http".toList) =
        (span.bind (locateKeyInSpanUnder lines key "http".toList)).map (·.renumber f))
    (element : ∀ position (index : Nat),
      span.bind (locateKeyInSpanUnder lines "expected_codes".toList "http".toList) = some position →
        blockItemAnchor moved (position.renumber f) index =
          (blockItemAnchor lines position index).map (·.renumber f))
    (anchor : TextRange) :
    NestedPlaces (Renumbered f) moved lines (span.map (·.renumber f)) span (anchor.renumber f) anchor := by
  have valued : ∀ key, IsPlainKey key →
      Renumbered f
        (nestedValueRange moved (span.map (·.renumber f)) key "http".toList (anchor.renumber f))
        (nestedValueRange lines span key "http".toList anchor) := by
    intro key plain
    unfold nestedValueRange
    rw [located key plain]
    cases span.bind (locateKeyInSpanUnder lines key "http".toList) <;> rfl
  have codes : IsPlainKey "expected_codes".toList := by decide
  refine ⟨valued, ?_⟩
  intro index
  unfold expectedCodeRange codeRange
  rw [located _ codes, valued _ codes]
  -- A code is its own element of the block, or the whole value if the block has no such element.
  cases found : span.bind (locateKeyInSpanUnder lines "expected_codes".toList "http".toList) with
  | none => rfl
  | some position =>
    simp only [Option.map_some, element position index found]
    cases blockItemAnchor lines position index <;> rfl

/-- The places of hooks follow their lines if the hooks and the items of their blocks do. -/
theorem hookPlaces_renumbered {header : Option KeyPosition}
    (located : ∀ hook, (header.map (·.renumber f)).bind (locateChildKey moved hook) =
      (header.bind (locateChildKey lines hook)).map (·.renumber f))
    (own : ∀ hook position, header.bind (locateChildKey lines hook) = some position →
      lineRange moved (f position.line : Nat) = (lineRange lines position.line).renumber f ∧
        blockItemSpans moved (position.renumber f) = (blockItemSpans lines position).map (·.renumber f) ∧
        ∀ span ∈ blockItemSpans lines position,
          spanRange moved (span.renumber f) = (spanRange lines span).renumber f)
    (fallback : TextRange) :
    HookPlaces (Renumbered f) moved lines (header.map (·.renumber f)) header (fallback.renumber f) fallback := by
  refine ⟨?_, ?_, ?_⟩
  · intro hook
    unfold hookKeyRange
    rw [located hook]
    cases header.bind (locateChildKey lines hook) <;> rfl
  · intro hook
    unfold hookValueRange
    rw [located hook]
    cases header.bind (locateChildKey lines hook) <;> rfl
  · intro hook index
    unfold hookCommandRange
    dsimp only
    rw [located hook]
    cases found : header.bind (locateChildKey lines hook) with
    | none => rfl
    | some position =>
      obtain ⟨line, spans, ranges⟩ := own hook position found
      simp only [Option.map_some, commandSpans, commandRange, spans, List.getElem?_map]
      -- A command has lines of its own, or the line of its hook.
      cases spanned : (blockItemSpans lines position)[index]? with
      | none => exact line
      | some span => exact ranges span (List.mem_of_getElem? spanned)

end Renumbered

end PlanLint
