import PlanLint.Proofs.Source.Lookup
import PlanLint.Proofs.Source.Renumbering

/-! What is looked up in a part of a text that closes its blocks does not depend on the text around it. -/

namespace PlanLint

/-- A header on a line of a text whose block is closed by what follows the text. -/
structure KeyPosition.ShutIn (middle after : List Line) (header : KeyPosition) : Prop where
  inside : header.line < middle.length
  closed : ClosesBlock header.keyStart after

/-- No line that says something is less indented than the top level. -/
theorem topIndent_le {lines : List Line} {line : Line} (member : line ∈ lines)
    (spoken : isSilent line = false) : topIndent lines ≤ indent line := by
  have listed : indent line ∈ (lines.filter fun line => !isSilent line).map indent :=
    List.mem_map_of_mem (List.mem_filter.mpr ⟨member, by simp [spoken]⟩)
  -- Without a line that says something the top level is the first column.
  unfold topIndent
  cases least : ((lines.filter fun line => !isSilent line).map indent).min? with
  | none => exact Nat.zero_le _
  | some column => exact (List.min?_eq_some_iff.mp least).2 _ listed

/-- A line that says something and is least indented stands at the top level. -/
theorem topIndent_eq {lines : List Line} {line : Line} (member : line ∈ lines)
    (spoken : isSilent line = false)
    (least : ∀ other ∈ lines, isSilent other = false → indent line ≤ indent other) :
    topIndent lines = indent line := by
  -- The least of the columns is one that occurs and that no other one is below.
  have found : ((lines.filter fun line => !isSilent line).map indent).min? = some (indent line) := by
    refine List.min?_eq_some_iff.mpr ⟨?_, ?_⟩
    · exact List.mem_map_of_mem (List.mem_filter.mpr ⟨member, by simp [spoken]⟩)
    · intro column listed
      obtain ⟨other, kept, rfl⟩ := List.mem_map.mp listed
      obtain ⟨among, loud⟩ := List.mem_filter.mp kept
      exact least other among (by simpa using loud)
  rw [topIndent, found, Option.getD_some]

section Surroundings

variable {before middle after : List Line}

/-- A line of a part stands further down in the whole by the lines before the part. -/
theorem getElem?_surrounded {number : Nat} (inside : number < middle.length) :
    (before ++ middle ++ after)[number + before.length]? = middle[number]? := by
  -- The index is behind the lines before the part and inside the part.
  rw [List.append_assoc, List.getElem?_append_right (by omega), Nat.add_sub_cancel,
    List.getElem?_append_left inside]

/-- The range of a line is the same in the whole, moved down. -/
theorem lineRange_surrounded {number : Nat} (inside : number < middle.length) :
    lineRange (before ++ middle ++ after) ((number + before.length : Nat) : Int) =
      (lineRange middle number).renumber (· + before.length) := by
  -- The line is the same, only its number is another one.
  have found : middle[number]? = some middle[number] := List.getElem?_eq_getElem inside
  rw [lineRange_eq found, lineRange_eq ((getElem?_surrounded inside).trans found)]
  rfl

/-- The range of a span is the same in the whole, moved down. -/
theorem spanRange_surrounded {span : LineSpan} (inside : span.last < middle.length) :
    spanRange (before ++ middle ++ after) (span.renumber (· + before.length)) =
      (spanRange middle span).renumber (· + before.length) := by
  -- The end of the range is read off the last line, which is the same.
  simp only [spanRange, LineSpan.renumber, TextRange.renumber, getElem?_surrounded inside]

/-- So is the rest of a line from a value on. -/
theorem lineRemainderRange_surrounded {position : KeyPosition} (inside : position.line < middle.length) :
    lineRemainderRange (before ++ middle ++ after) (position.renumber (· + before.length)) =
      (lineRemainderRange middle position).map (·.renumber (· + before.length)) := by
  -- The end of the rest is read off the line, which is the same.
  simp only [lineRemainderRange, KeyPosition.renumber, getElem?_surrounded inside, Option.map_map]
  rfl

/-- Moving lines down keeps their order. -/
theorem strictMono_down (count : Nat) : StrictMono fun number : Nat => number + count :=
  fun _ _ less => Nat.add_lt_add_right less count

section Block

variable {header : KeyPosition}

/-- The body of a block that is closed is the same in the whole. -/
theorem blockBody_surrounded (shut : header.ShutIn middle after) :
    blockBody header.keyStart ((before ++ middle ++ after).drop (header.line + before.length + 1)) =
      blockBody header.keyStart (middle.drop (header.line + 1)) := by
  have inside := shut.inside
  -- Below the header stands the rest of the part, and then what closes the block.
  have below : (before ++ middle ++ after).drop (header.line + before.length + 1) =
      middle.drop (header.line + 1) ++ after := by
    rw [List.append_assoc, List.drop_append, List.drop_eq_nil_of_le (by omega), List.nil_append,
      show header.line + before.length + 1 - before.length = header.line + 1 by omega,
      List.drop_append, show header.line + 1 - middle.length = 0 by omega, List.drop_zero]
  rw [below, blockBody_append shut.closed]

/-- The block ends where it ends in the part, moved down. -/
theorem blockEnd_surrounded (shut : header.ShutIn middle after) :
    blockEnd (before ++ middle ++ after) (header.renumber (· + before.length)) =
      blockEnd middle header + before.length := by
  -- The block has the same body below its header.
  simp only [blockEnd, KeyPosition.renumber, blockBody_surrounded shut]
  omega

/-- The block has the lines that it has in the part, moved down. -/
theorem blockLines_surrounded (shut : header.ShutIn middle after) :
    blockLines (before ++ middle ++ after) (header.renumber (· + before.length)) =
      (blockLines middle header).map (renumberLine (· + before.length)) := by
  -- The same body is numbered from a header that stands further down.
  simp only [blockLines, KeyPosition.renumber, blockBody_surrounded shut]
  have start : header.line + before.length + 1 = before.length + (header.line + 1) := by omega
  rw [start, ← List.map_snd_add_zipIdx_eq_zipIdx]
  rfl

/-- The items of the block are where they are in the part, moved down. -/
theorem blockItemSpans_surrounded (shut : header.ShutIn middle after) :
    blockItemSpans (before ++ middle ++ after) (header.renumber (· + before.length)) =
      (blockItemSpans middle header).map (·.renumber (· + before.length)) := by
  -- The items start on the same lines, moved down.
  have starts : ((itemStarts (blockLines middle header)).map (renumberLine (· + before.length))).map (·.2) =
      ((itemStarts (blockLines middle header)).map (·.2)).map (· + before.length) := by
    rw [List.map_map, List.map_map]
    rfl
  unfold blockItemSpans
  dsimp only
  rw [blockLines_surrounded shut, blockEnd_surrounded shut, itemStarts_renumber, starts]
  exact spansFrom_renumber (strictMono_down _) _ (fun _ _ => Nat.add_lt_add_iff_right) _

/-- So are their anchors. -/
theorem blockItemAnchor_surrounded (shut : header.ShutIn middle after) (index : Int) :
    blockItemAnchor (before ++ middle ++ after) (header.renumber (· + before.length)) index =
      (blockItemAnchor middle header index).map (·.renumber (· + before.length)) := by
  -- A negative index gives nothing in either text.
  unfold blockItemAnchor
  split
  · rfl
  · rw [blockLines_surrounded shut, itemStarts_renumber, List.getElem?_map, Option.map_map, Option.map_map]
    rfl

/-- A key below a header is where it is in the part, moved down. -/
theorem locateKeyBelow_surrounded (shut : header.ShutIn middle after) (key : List Char) :
    locateKeyBelow (before ++ middle ++ after) key (header.renumber (· + before.length)) =
      (locateKeyBelow middle key header).map (·.renumber (· + before.length)) := by
  -- The search goes through the lines of the block.
  rw [locateKeyBelow, blockLines_surrounded shut, findSome?_matchKey_renumber]
  rfl

/-- So is a child of the header. -/
theorem locateChildKey_surrounded (shut : header.ShutIn middle after) (key : List Char) :
    locateChildKey (before ++ middle ++ after) key (header.renumber (· + before.length)) =
      (locateChildKey middle key header).map (·.renumber (· + before.length)) := by
  -- The column of the children is that of the first line that says something, in both.
  unfold locateChildKey
  dsimp only
  rw [blockLines_surrounded shut, List.find?_map]
  have same : ((fun line : NumberedLine => !isSilent line.1) ∘ renumberLine (· + before.length)) =
      fun line => !isSilent line.1 := rfl
  rw [same]
  cases (blockLines middle header).find? fun line => !isSilent line.1 with
  | none => rfl
  | some first => exact findSome?_matchKeyAt_renumber _ _ _ _

end Block

section Span

variable {span : LineSpan}

/-- The lines of a span in the part are the same in the whole, moved down. -/
theorem spanLines_surrounded (inside : span.last < middle.length) :
    spanLines (before ++ middle ++ after) (span.renumber (· + before.length)) =
      (spanLines middle span).map (renumberLine (· + before.length)) := by
  -- Place by place, as far as the span goes; beyond it there is nothing on either side.
  apply List.ext_getElem?
  intro place
  simp only [spanLines, LineSpan.renumber, List.getElem?_map, List.getElem?_take, List.getElem?_drop,
    List.getElem?_zipIdx, Nat.zero_add]
  by_cases within : place < span.last + 1 - span.first
  · have moved : span.first + before.length + place = span.first + place + before.length := by omega
    rw [if_pos within, if_pos (by omega), moved, getElem?_surrounded (by omega), Option.map_map]
    rfl
  · rw [if_neg within, if_neg (by omega), Option.map_none]

/-- A key in a span is where it is in the part, moved down. -/
theorem locateKeyInSpan_surrounded (inside : span.last < middle.length) (key : List Char) :
    locateKeyInSpan (before ++ middle ++ after) key (span.renumber (· + before.length)) =
      (locateKeyInSpan middle key span).map (·.renumber (· + before.length)) := by
  -- The search goes through the lines of the span.
  rw [locateKeyInSpan, spanLines_surrounded inside, findSome?_matchKey_renumber]
  rfl

end Span

section Key

variable {key : List Char}

/-- A key of the block, on a line that says something, opens a block that is closed as well. -/
theorem KeyPosition.ShutIn.of_isKeyAt {header position : KeyPosition} (shut : header.ShutIn middle after)
    (below : header.line < position.line) (inside : position.line < blockEnd middle header)
    (here : IsKeyAt middle key position) (named : key.head? ≠ some '#') : position.ShutIn middle after := by
  -- What closes a block closes those that are nested in it.
  have deeper := (blockEnd_le_of_isKeyAt below inside here (here.spoken named)).1
  have ends := blockEnd_le_length shut.inside
  exact ⟨by omega, shut.closed.mono (Nat.le_of_lt deeper)⟩

/-- A child of a header opens a block that is closed as well. -/
theorem KeyPosition.ShutIn.of_child {header position : KeyPosition} (shut : header.ShutIn middle after)
    (found : locateChildKey middle key header = some position) : position.ShutIn middle after := by
  -- The child stands deeper than its header, so what closes the block of the one closes that of the other.
  obtain ⟨below, inside, -, deeper, -⟩ := locateChildKey_eq_some found
  have ends := blockEnd_le_length shut.inside
  exact ⟨by omega, shut.closed.mono (Nat.le_of_lt deeper)⟩

/-- A section that starts with the part is found on the first line of the part, at the same columns. -/
theorem locateKey_surrounded {header : KeyPosition} (nonempty : middle ≠ [])
    (found : locateKey (before ++ middle ++ after) key = some header) (first : header.line = before.length) :
    ∃ start, locateKey middle key = some start ∧ start.line = 0 ∧
      header = start.renumber (· + before.length) := by
  obtain ⟨line, rest, rfl⟩ := List.exists_cons_of_ne_nil nonempty
  -- The key was matched on the first line of the part, at the indentation of the top level.
  obtain ⟨⟨text, number⟩, member, matched⟩ := List.exists_of_findSome?_eq_some found
  have listed := List.mem_zipIdx_iff_getElem?.mp member
  obtain ⟨spoken, level, -, here⟩ := matchKeyAt_eq_some matched
  dsimp only at listed spoken level here
  obtain rfl : number = 0 + before.length := by
    rw [← matchKey_line here, first, Nat.zero_add]
  rw [getElem?_surrounded (by simp), List.getElem?_cons_zero, Option.some.injEq] at listed
  subst listed
  -- No line of the part is less indented, so the part has the same top level.
  have top : topIndent (line :: rest) = topIndent (before ++ line :: rest ++ after) := by
    rw [← level]
    refine topIndent_eq (by simp) spoken ?_
    intro other among loud
    rw [level]
    exact topIndent_le (by simp at among ⊢; tauto) loud
  have moved := matchKeyAt_renumber (· + before.length) (topIndent (before ++ line :: rest ++ after)) key (line, 0)
  rw [show renumberLine (· + before.length) (line, 0) = (line, 0 + before.length) from rfl, matched] at moved
  obtain ⟨start, began, same⟩ := Option.map_eq_some_iff.mp moved.symm
  refine ⟨start, ?_, matchKey_line (matchKeyAt_eq_some began).2.2.2, same.symm⟩
  rw [locateKey, top, List.zipIdx_cons, List.findSome?_cons, began]

end Key

end Surroundings

end PlanLint
