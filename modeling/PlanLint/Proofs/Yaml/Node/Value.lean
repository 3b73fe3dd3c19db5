import PlanLint.Proofs.Yaml.Node.Part
import PlanLint.Proofs.Yaml.Scalar

/-! What the nodes of a text stand for: a value, or a failure that belongs to the text. Reading breaks off only at
one of the parts that make it do so. -/

namespace PlanLint

variable {text : List Char} {breaks : Breakdown → Prop} {α β : Type}

/-- An outcome whose failures belong to a text. -/
structure Outcome.IsOf (text : List Char) (breaks : Breakdown → Prop) (outcome : Outcome α) : Prop where
  result : Gives.Any text breaks outcome.result
  repeated : ∀ failure ∈ outcome.repeated, failure.IsOf text breaks

/-- Two readings come to a value exactly if the first does and the second does with that value. -/
theorem Outcome.bind_result_eq_ok {outcome : Outcome α} {next : α → Outcome β} {b : β} :
    (outcome >>= next).result = .ok b ↔ ∃ a, outcome.result = .ok a ∧ (next a).result = .ok b := by
  obtain ⟨result, repeated⟩ := outcome
  -- Behind a first reading that failed there is none.
  cases result with
  | error failure => exact ⟨nofun, fun ⟨_, impossible, _⟩ => nomatch impossible⟩
  | ok a => exact ⟨fun read => ⟨a, rfl, read⟩, fun ⟨_, same, read⟩ => Except.ok.inj same ▸ read⟩

namespace Outcome.IsOf

/-- What is known is read without a failure. -/
theorem known (a : α) : (Outcome.known a).IsOf text breaks := ⟨trivial, by simp [Outcome.known]⟩

/-- A failure that belongs to the text. -/
theorem failed {failure : ReadError} (belongs : failure.IsOf text breaks) :
    (Outcome.failed failure : Outcome α).IsOf text breaks :=
  ⟨belongs, by simp [Outcome.failed]⟩

/-- A result without a repeated key. -/
theorem ofResult {read : Except ReadError α} (gives : Gives.Any text breaks read) :
    (Outcome.ofResult read).IsOf text breaks :=
  ⟨gives, by simp [Outcome.ofResult]⟩

/-- A repeated key that belongs to the text. -/
theorem noting {repetition : ReadError} (belongs : repetition.IsOf text breaks) :
    (Outcome.noting repetition).IsOf text breaks :=
  ⟨trivial, by simpa [Outcome.noting] using belongs⟩

/-- One reading after another, which knows what the first one gave. -/
theorem bind_result {first : Outcome α} {next : α → Outcome β} (is_of : first.IsOf text breaks)
    (later : ∀ a, first.result = .ok a → (next a).IsOf text breaks) : (first >>= next).IsOf text breaks := by
  obtain ⟨result, repeated⟩ := first
  cases result with
  | error failure => exact ⟨is_of.result, is_of.repeated⟩
  | ok a =>
    -- The first repeated key is the one that is kept.
    refine ⟨(later a rfl).result, fun failure found => ?_⟩
    rcases Option.or_eq_some_iff.mp found with before | ⟨-, after⟩
    · exact is_of.repeated failure before
    · exact (later a rfl).repeated failure after

/-- One reading after another. -/
theorem bind {first : Outcome α} {next : α → Outcome β} (is_of : first.IsOf text breaks)
    (later : ∀ a, (next a).IsOf text breaks) : (first >>= next).IsOf text breaks :=
  is_of.bind_result fun a _ => later a

/-- A reading whose every failure counts as one that belongs to the text. -/
theorem orElseFail {outcome : Outcome α} {failure : ReadError} (belongs : failure.IsOf text breaks) :
    (outcome.orElseFail failure).IsOf text breaks := by
  -- Result and repeated key are both replaced by the same failure.
  constructor
  · unfold Outcome.orElseFail
    dsimp only
    split
    · exact trivial
    · exact belongs
  · intro found repeated
    obtain ⟨-, -, rfl⟩ := Option.map_eq_some_iff.mp repeated
    exact belongs

/-- What belongs to a text still does if reading may break off in more ways. -/
theorem mono {more : Breakdown → Prop} {outcome : Outcome α} (is_of : outcome.IsOf text breaks)
    (weakens : ∀ cause, breaks cause → more cause) : outcome.IsOf text more := by
  refine ⟨?_, fun failure found => (is_of.repeated failure found).mono weakens⟩
  have result := is_of.result
  -- A result that is there speaks of no cause.
  cases read : outcome.result with
  | ok a => exact trivial
  | error failure =>
    rw [read] at result
    exact ReadError.IsOf.mono result weakens

/-- The result, whether repeated keys are allowed or not. -/
theorem settle {outcome : Outcome α} (is_of : outcome.IsOf text breaks) (allowsRepeated : Bool) :
    Gives.Any text breaks (outcome.settle allowsRepeated) := by
  unfold Outcome.settle
  -- What was repeated is the failure, unless that is allowed.
  split
  · rename_i repetition repeated
    exact .ite (fun _ => is_of.result) fun _ => is_of.repeated repetition repeated
  · exact is_of.result

end Outcome.IsOf

variable {isCurrent : Bool}

/-- What a scalar stands for. -/
theorem scalarValue_gives {anchored : Bool} {tag : Tag} {style : ScalarStyle} {word : List Char} {start : Mark}
    (place : start.IsPlaceOf text)
    (unknown : tag = .core .bool → booleanOf? (smallLetters word) = none →
      breaks (.unknownBoolean (smallLetters word))) :
    Gives.Any text breaks (scalarValue isCurrent tag style word anchored start) := by
  unfold scalarValue
  -- One case for each tag; only a boolean can make reading break off.
  split
  · exact trivial
  · exact trivial
  · dsimp only
    split
    · exact trivial
    · exact .breakdown (unknown rfl ‹_›)
  · exact (readInteger_gives ..).map fun _ _ => trivial
  · exact (readFloat_gives ..).map fun _ _ => trivial
  · split
    · exact trivial
    · exact problemAt_isOf place
  · exact readMoment_gives _ place
  · exact trivial
  · exact problemAt_isOf place
  · exact problemAt_isOf place
  · exact problemAt_isOf place
  · exact problemWhile_isOf place
  · exact problemWhile_isOf place

variable {started mark : Mark}

/-- A problem whose reason may not be one to be shown. -/
theorem placedProblem_isOf {activity : Activity} {reason : Reason} (place : mark.IsPlaceOf text) :
    (placedProblem activity started mark reason).IsOf text breaks := by
  unfold placedProblem
  -- What cannot be shown is reported without a place.
  split
  · exact problemOf_isOf
  · exact problemWhile_isOf place

/-- One more entry. -/
theorem addEntry_isOf {entries : Entries} {key value : Value} (place : mark.IsPlaceOf text) :
    (addEntry started mark entries key value).IsOf text breaks := by
  unfold addEntry
  -- An entry whose key was there already is noted at its place.
  split
  · exact .known _
  · exact (Outcome.IsOf.noting (placedProblem_isOf place)).bind fun _ => .known _

/-- One more member. -/
theorem addMember_isOf {members : List Value} {key : Value} (place : mark.IsPlaceOf text) :
    (addMember started mark members key).IsOf text breaks := by
  unfold addMember
  -- The same for a member of a set.
  split
  · exact (Outcome.IsOf.noting (placedProblem_isOf place)).bind fun _ => .known _
  · exact .known _

/-- A value as a key. -/
theorem keyOrFail_isOf {key : Option Value} (place : mark.IsPlaceOf text) :
    (keyOrFail started mark key).IsOf text breaks := by
  unfold keyOrFail
  -- A value that cannot be a key is a problem of its node.
  split
  · exact .known _
  · exact .failed (problemWhile_isOf place)

/-- An item adds to an ordered map an entry under a key that it names. -/
theorem Node.orderedEntry_result {room : Nat} {start : Mark} {read after : Entries} (item : Node)
    (added : (item.orderedEntry isCurrent room start read).result = .ok after) :
    ∃ name value, after = read ++ [(name, value)] ∧ item.Names isCurrent name := by
  -- Only a mapping with one entry, possibly with an anchor, adds anything.
  fun_cases Node.orderedEntry with
  | case1 tag key value own =>
    rw [Node.orderedEntry, Outcome.bind_result_eq_ok] at added
    obtain ⟨name, named, added⟩ := added
    split at added
    · simp [Outcome.failed] at added
    · obtain ⟨other, -, added⟩ := Outcome.bind_result_eq_ok.mp added
      exact ⟨name, other, (Except.ok.inj added).symm, .mapping named⟩
  | case2 node value =>
    rw [Node.orderedEntry] at added
    obtain ⟨name, other, after_eq, names⟩ := Node.orderedEntry_result node added
    exact ⟨name, other, after_eq, .shared names⟩
  | case3 =>
    rw [Node.orderedEntry] at added
    · simp [Outcome.failed] at added
    all_goals assumption

/-- A key that is there already was named by an item before, so that the items repeat a key. -/
theorem repeatsKey_of_named {before after : List Node} {item : Node} {read : Entries} {name : Value}
    (named : ∀ entry ∈ read, ∃ earlier ∈ before, earlier.Names isCurrent entry.1)
    (names : item.Names isCurrent name) (there : (valueAtKey? read name).isSome = true) :
    RepeatsKey isCurrent (before ++ item :: after) := by
  -- The entry with the same key tells which item it was.
  rw [valueAtKey?, Option.isSome_map, List.find?_isSome] at there
  obtain ⟨entry, member, same⟩ := there
  obtain ⟨earlier, was_before, was_named⟩ := named entry member
  exact ⟨before, item, after, rfl, earlier, was_before, entry.1, name, was_named, names, same⟩

variable {root : Node}

mutual
/-- What a part of a node stands for. -/
theorem Node.value_isOf {room : Nat} (whole : root.IsOf text isCurrent) (node : Node) (part : root.Holds node) :
    (node.value isCurrent room).IsOf text (root.BreaksOff isCurrent) := by
  have is_of := whole.part part
  cases node with
  | shared node value =>
    -- What is shared is what the node stands for by itself.
    cases is_of
    rw [Node.value]
    exact Node.value_isOf whole node (part.trans (.shared (.self _)))
  | enclosing isDocument kind start =>
    rw [Node.value]
    exact .known _
  | scalar tag style word anchored start =>
    rw [Node.value]
    refine .ofResult (scalarValue_gives is_of.start fun boolean unknown => ?_)
    subst boolean
    exact .unknownBoolean part unknown
  | sequence tag items start =>
    have place := is_of.start
    have parts : ∀ item ∈ items, root.Holds item := fun item member => part.trans (.item member (.self item))
    unfold Node.value
    -- One case for each tag that a sequence is read under; the first is that of too deep a nesting.
    split
    · exact .failed problemOf_isOf
    · exact (itemValues_isOf whole items parts).bind fun _ => .known _
    · exact (orderedEntries_isOf whole [] items part (by simp) parts).bind fun _ => .known _
    · exact (pairValues_isOf whole items parts).bind fun _ => .known _
    · exact .failed (problemAt_isOf place)
    · exact .failed (problemAt_isOf place)
    · exact .orElseFail (problemAt_isOf place)
    · exact .failed (problemAt_isOf place)
    · exact .failed (problemAt_isOf place)
  | mapping tag entries start =>
    have place := is_of.start
    have keys : ∀ entry ∈ entries, root.Holds entry.1 := fun _ member => part.trans (.key member (.self _))
    have values : ∀ entry ∈ entries, root.Holds entry.2 := fun _ member => part.trans (.value member (.self _))
    unfold Node.value
    -- The same for a mapping.
    split
    · exact .failed problemOf_isOf
    · refine (mergedMappings_isOf whole entries keys values).bind fun _ => ?_
      exact (ownEntries_isOf whole entries keys values).bind fun _ => .known _
    · exact .orElseFail (problemAt_isOf place)
    · exact (setMembers_isOf whole entries keys values).bind fun _ => .known _
    · exact .failed (problemAt_isOf place)
    · exact .failed (problemWhile_isOf place)
    · exact .failed (problemWhile_isOf place)
    · exact .failed (problemAt_isOf place)
    · exact .failed (problemAt_isOf place)

/-- What the items of a sequence stand for. -/
theorem itemValues_isOf {room : Nat} (whole : root.IsOf text isCurrent) (items : List Node)
    (parts : ∀ item ∈ items, root.Holds item) :
    (itemValues isCurrent room items).IsOf text (root.BreaksOff isCurrent) := by
  -- Recursion over the items, as the reader goes through them.
  cases items with
  | nil => rw [itemValues]; exact .known _
  | cons item items =>
    rw [List.forall_mem_cons] at parts
    rw [itemValues]
    refine (Node.value_isOf whole item parts.1).bind fun _ => ?_
    exact (itemValues_isOf whole items parts.2).bind fun _ => .known _

/-- The mappings that are merged into another. -/
theorem mergedMappings_isOf {merges skips : Bool} {room : Nat} {start : Mark} (whole : root.IsOf text isCurrent)
    (entries : List (Node × Node)) (keys : ∀ entry ∈ entries, root.Holds entry.1)
    (values : ∀ entry ∈ entries, root.Holds entry.2) :
    (mergedMappings isCurrent room start merges skips entries).IsOf text (root.BreaksOff isCurrent) := by
  cases entries with
  | nil => rw [mergedMappings]; exact .known _
  | cons entry entries =>
    rw [List.forall_mem_cons] at keys values
    rw [mergedMappings]
    split
    · exact mergedMappings_isOf whole entries keys.2 values.2
    · split
      · -- A second merge key is a repeated one, and is noted where it stands.
        have place := (whole.part keys.1).start
        exact (Outcome.IsOf.noting (problemWhile_isOf place)).bind fun _ =>
          mergedMappings_isOf whole entries keys.2 values.2
      · -- What a merge key names is read as a mapping or as a list of them.
        have later : ∀ found : List Entries, Outcome.IsOf text (root.BreaksOff isCurrent) (do
            return found ++ (← mergedMappings isCurrent room start entry.2.addsMerge false entries)) :=
          fun _ => (mergedMappings_isOf whole entries keys.2 values.2).bind fun _ => .known _
        dsimp only
        split
        · exact (Node.value_isOf whole entry.2 values.1).bind fun _ => later _
        · exact (Node.mergedSequence_isOf whole entry.2 values.1).bind later

/-- The mappings that a node names, one by one. -/
theorem Node.mergedSequence_isOf {room : Nat} {start : Mark} (whole : root.IsOf text isCurrent) (node : Node)
    (part : root.Holds node) :
    (node.mergedSequence isCurrent room start).IsOf text (root.BreaksOff isCurrent) := by
  have place := (whole.part part).start
  -- A node that is no sequence cannot be merged in this way.
  cases node with
  | shared node value =>
    rw [Node.mergedSequence]
    exact Node.mergedSequence_isOf whole node (part.trans (.shared (.self _)))
  | enclosing => rw [Node.mergedSequence]; exact .known _
  | sequence tag items start =>
    rw [Node.mergedSequence]
    exact mergedItems_isOf whole items fun item member => part.trans (.item member (.self item))
  | scalar => rw [Node.mergedSequence]; exact .failed (problemWhile_isOf place); all_goals simp
  | mapping => rw [Node.mergedSequence]; exact .failed (problemWhile_isOf place); all_goals simp

/-- The mappings in a sequence. -/
theorem mergedItems_isOf {room : Nat} {start : Mark} (whole : root.IsOf text isCurrent) (items : List Node)
    (parts : ∀ item ∈ items, root.Holds item) :
    (mergedItems isCurrent room start items).IsOf text (root.BreaksOff isCurrent) := by
  cases items with
  | nil => rw [mergedItems]; exact .known _
  | cons item items =>
    rw [List.forall_mem_cons] at parts
    rw [mergedItems]
    -- Only an item that is a mapping can be merged.
    split
    · refine (Node.value_isOf whole item parts.1).bind fun _ => ?_
      exact (mergedItems_isOf whole items parts.2).bind fun _ => .known _
    · exact .failed (problemWhile_isOf (whole.part parts.1).start)

/-- The entries of a mapping itself. -/
theorem ownEntries_isOf {merges skips : Bool} {room : Nat} {start : Mark} {read : Entries}
    (whole : root.IsOf text isCurrent) (entries : List (Node × Node))
    (keys : ∀ entry ∈ entries, root.Holds entry.1) (values : ∀ entry ∈ entries, root.Holds entry.2) :
    (ownEntries isCurrent room start merges skips entries read).IsOf text (root.BreaksOff isCurrent) := by
  cases entries with
  | nil => rw [ownEntries]; exact .known _
  | cons entry entries =>
    rw [List.forall_mem_cons] at keys values
    have place := (whole.part keys.1).start
    rw [ownEntries]
    split
    · exact ownEntries_isOf whole entries keys.2 values.2
    · -- Whatever the key is read as, its value and the other entries are read in the same way.
      have later : ∀ name : Value, Outcome.IsOf text (root.BreaksOff isCurrent) (do
          let name ← keyOrFail start entry.1.start name.asKey?
          let value ← entry.2.value isCurrent room
          let read ← addEntry start entry.1.start read name value
          ownEntries isCurrent room start merges false entries read) := by
        intro name
        refine (keyOrFail_isOf place).bind fun _ => ?_
        refine (Node.value_isOf whole entry.2 values.1).bind fun _ => ?_
        exact (addEntry_isOf place).bind fun _ => ownEntries_isOf whole entries keys.2 values.2
      dsimp only
      split
      · rename_i tag style word anchored own scalar
        have part := scalar ▸ keys.1
        have place := (whole.part part).start
        refine (Outcome.IsOf.ofResult (scalarValue_gives place fun boolean unknown => ?_)).bind later
        -- A key that is read as plain text asks for no boolean.
        split at boolean
        · simp at boolean
        · exact .unknownBoolean (boolean ▸ part) unknown
      · exact (Node.value_isOf whole entry.1 keys.1).bind later

/-- The members of a set. -/
theorem setMembers_isOf {room : Nat} {start : Mark} {read : List Value} (whole : root.IsOf text isCurrent)
    (entries : List (Node × Node)) (keys : ∀ entry ∈ entries, root.Holds entry.1)
    (values : ∀ entry ∈ entries, root.Holds entry.2) :
    (setMembers isCurrent room start entries read).IsOf text (root.BreaksOff isCurrent) := by
  cases entries with
  | nil => rw [setMembers]; exact .known _
  | cons entry entries =>
    rw [List.forall_mem_cons] at keys values
    have place := (whole.part keys.1).start
    rw [setMembers]
    -- The value of an entry is read as well, though the set only keeps its key.
    refine (Node.value_isOf whole entry.1 keys.1).bind fun _ => ?_
    refine (keyOrFail_isOf place).bind fun _ => ?_
    refine (Node.value_isOf whole entry.2 values.1).bind fun _ => ?_
    exact (addMember_isOf place).bind fun _ => setMembers_isOf whole entries keys.2 values.2

/-- The entries of an ordered map, behind those of the items in front. -/
theorem orderedEntries_isOf {room : Nat} {start own : Mark} {read : Entries} (whole : root.IsOf text isCurrent)
    (before items : List Node) (part : root.Holds (.sequence (.core .orderedMap) (before ++ items) own))
    (named : ∀ entry ∈ read, ∃ earlier ∈ before, earlier.Names isCurrent entry.1)
    (parts : ∀ item ∈ items, root.Holds item) :
    (orderedEntries isCurrent room start items read).IsOf text (root.BreaksOff isCurrent) := by
  cases items with
  | nil => rw [orderedEntries]; exact .known _
  | cons item items =>
    rw [List.forall_mem_cons] at parts
    rw [orderedEntries]
    have twice : ∀ name, item.Names isCurrent name → (valueAtKey? read name).isSome = true →
        root.BreaksOff isCurrent .repeatedPair := fun name names there =>
      .repeatedPair part (repeatsKey_of_named named names there)
    refine (Node.orderedEntry_isOf whole item parts.1 twice).bind_result fun after added => ?_
    -- From here on the item is one of those in front, and names the key of the entry that it added.
    obtain ⟨name, value, rfl, names⟩ := Node.orderedEntry_result item added
    refine orderedEntries_isOf whole (before ++ [item]) items (by simpa using part) ?_ parts.2
    intro entry member
    rcases List.mem_append.mp member with old | new
    · obtain ⟨earlier, was_before, was_named⟩ := named entry old
      exact ⟨earlier, List.mem_append_left _ was_before, was_named⟩
    · rw [List.mem_singleton.mp new]
      exact ⟨item, by simp, names⟩

/-- The entry of one item. -/
theorem Node.orderedEntry_isOf {room : Nat} {start : Mark} {read : Entries} (whole : root.IsOf text isCurrent)
    (node : Node) (part : root.Holds node)
    (twice : ∀ name, node.Names isCurrent name → (valueAtKey? read name).isSome = true →
      root.BreaksOff isCurrent .repeatedPair) :
    (node.orderedEntry isCurrent room start read).IsOf text (root.BreaksOff isCurrent) := by
  have other : Outcome.IsOf text (root.BreaksOff isCurrent) (Outcome.failed
      (notPair .orderedMap start node.start node.kind node.entries.length) : Outcome Entries) :=
    .failed (problemWhile_isOf (whole.part part).start)
  -- An item is a mapping with one entry, or reported as something else.
  cases node with
  | mapping tag entries own =>
    rcases entries with _ | ⟨⟨key, value⟩, _ | ⟨second, more⟩⟩
    · exact other
    · have key_part : root.Holds key := part.trans (.key (List.mem_singleton_self (key, value)) (.self _))
      have value_part : root.Holds value := part.trans (.value (List.mem_singleton_self (key, value)) (.self _))
      rw [Node.orderedEntry]
      refine (Node.value_isOf whole key key_part).bind_result fun name named => ?_
      split
      · rename_i there
        exact .failed (.breakdown (twice name (.mapping named) there))
      · exact (Node.value_isOf whole value value_part).bind fun _ => .known _
    · exact other
  | shared node value =>
    rw [Node.orderedEntry]
    exact Node.orderedEntry_isOf whole node (part.trans (.shared (.self _))) fun name names =>
      twice name (.shared names)
  | scalar => exact other
  | sequence => exact other
  | enclosing => exact other

/-- The pairs of a sequence. -/
theorem pairValues_isOf {room : Nat} {start : Mark} (whole : root.IsOf text isCurrent) (items : List Node)
    (parts : ∀ item ∈ items, root.Holds item) :
    (pairValues isCurrent room start items).IsOf text (root.BreaksOff isCurrent) := by
  -- Induction on the items.
  cases items with
  | nil => rw [pairValues]; exact .known _
  | cons item items =>
    rw [List.forall_mem_cons] at parts
    rw [pairValues]
    refine (Node.pairValue_isOf whole item parts.1).bind fun _ => ?_
    exact (pairValues_isOf whole items parts.2).bind fun _ => .known _

/-- The pair of one item. -/
theorem Node.pairValue_isOf {room : Nat} {start : Mark} (whole : root.IsOf text isCurrent) (node : Node)
    (part : root.Holds node) :
    (node.pairValue isCurrent room start).IsOf text (root.BreaksOff isCurrent) := by
  have other : Outcome.IsOf text (root.BreaksOff isCurrent) (Outcome.failed
      (notPair .pairs start node.start node.kind node.entries.length) : Outcome Value) :=
    .failed (problemWhile_isOf (whole.part part).start)
  -- As for an ordered map, but a key may be repeated.
  cases node with
  | mapping tag entries own =>
    rcases entries with _ | ⟨⟨key, value⟩, _ | ⟨second, more⟩⟩
    · exact other
    · have key_part : root.Holds key := part.trans (.key (List.mem_singleton_self (key, value)) (.self _))
      have value_part : root.Holds value := part.trans (.value (List.mem_singleton_self (key, value)) (.self _))
      rw [Node.pairValue]
      refine (Node.value_isOf whole key key_part).bind fun _ => ?_
      exact (Node.value_isOf whole value value_part).bind fun _ => .known _
    · exact other
  | shared node value =>
    rw [Node.pairValue]
    exact Node.pairValue_isOf whole node (part.trans (.shared (.self _)))
  | scalar => exact other
  | sequence => exact other
  | enclosing => exact other
end

end PlanLint
