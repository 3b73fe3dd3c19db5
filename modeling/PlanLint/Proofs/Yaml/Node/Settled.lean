import PlanLint.Proofs.Yaml.Node.Parser
import PlanLint.Yaml.Read

/-! Reading that settles a repeated key as soon as it meets one.

A reader only notes the first repeated key, and whether it counts is settled when all is read. That comes to the
same as a reader that is told beforehand whether repeated keys are allowed, and refuses such a key on the spot or
else leaves it out. -/

namespace PlanLint

namespace Outcome

variable {α β : Type}

/-- Where repeated keys are allowed, a reading comes to its result. -/
theorem settle_true (o : Outcome α) : o.settle true = o.result := by
  -- With a repeated key or without, the result is what counts.
  unfold settle
  split <;> rfl

/-- Where they are not, it comes to a value exactly if that is its result and no key was repeated. -/
theorem settle_false_eq_ok_iff {o : Outcome α} {a : α} :
    o.settle false = .ok a ↔ o.result = .ok a ∧ o.repeated = none := by
  -- A repeated key is the failure that it comes to, whatever the result.
  unfold settle
  split
  · rename_i repetition repeated
    simp [repeated]
  · rename_i none
    simp [none]

/-- What is known needs no settling. -/
@[simp] theorem settle_known (a : α) (allows : Bool) : (known a).settle allows = .ok a := rfl

/-- The same for what is known at the end of a reading. -/
@[simp] theorem settle_pure (a : α) (allows : Bool) : (pure a : Outcome α).settle allows = pure a := rfl

/-- A failure is what it comes to. -/
@[simp] theorem settle_failed (failure : ReadError) (allows : Bool) :
    (failed failure : Outcome α).settle allows = .error failure := rfl

/-- A result without a repeated key is what it comes to. -/
@[simp] theorem settle_ofResult (result : Except ReadError α) (allows : Bool) :
    (ofResult result).settle allows = result := rfl

/-- Readings one after the other can be settled one after the other. -/
theorem settle_bind (o : Outcome α) (next : α → Outcome β) (allows : Bool) :
    (o >>= next).settle allows = o.settle allows >>= fun a => (next a).settle allows := by
  obtain ⟨result, repeated⟩ := o
  cases result with
  | error failure =>
    -- The failure ends the reading, unless a repeated key before it does.
    cases repeated <;> cases allows <;> rfl
  | ok a =>
    cases repeated with
    | none => rfl
    | some repetition =>
      -- A refused key is behind: what comes next can only be reached if it was allowed.
      cases allows with
      | false => rfl
      | true => exact (settle_true _).trans (settle_true (next a)).symm

/-- A reading whose every failure counts as one and the same comes to that failure, whether it failed or met a
repeated key that is refused. -/
theorem settle_orElseFail (o : Outcome α) (failure : ReadError) (allows : Bool) :
    (o.orElseFail failure).settle allows = (o.settle allows).mapError fun _ => failure := by
  -- One case for each of the ways in which a reading ends.
  obtain ⟨result, repeated⟩ := o
  cases repeated <;> cases result <;> cases allows <;> rfl

end Outcome

/-! The reader itself, function by function as the one that notes repeated keys. -/

namespace Settled

/-- A repeated key is refused, unless it is allowed. -/
def refuse (allows : Bool) (repetition : ReadError) : Except ReadError Unit :=
  if allows then .ok () else .error repetition

/-- Entries with one more. An entry whose key is there already is refused, or left out. -/
def addEntry (allows : Bool) (started mark : Mark) (entries : Entries) (key value : Value) :
    Except ReadError Entries :=
  match valueAtKey? entries key with
  | none => .ok (entries ++ [(key, value)])
  | some original => do
    refuse allows (repeatedEntry started mark key value original)
    return entries

/-- Members with one more. A member that is there already is refused, or left out. -/
def addMember (allows : Bool) (started mark : Mark) (members : List Value) (key : Value) :
    Except ReadError (List Value) :=
  if members.any (·.sameKey key) then do
    refuse allows (repeatedMember started mark key)
    return members
  else .ok (members ++ [key])

/-- A value as a key, or the problem of one that cannot be a key. -/
def keyOrFail (started mark : Mark) (key : Option Value) : Except ReadError Value :=
  match key with
  | some key => .ok key
  | none => .error (problemWhile .mapping started mark .unhashableKey)

mutual
/-- What a node stands for. -/
def value (allows isCurrent : Bool) (room : Nat) : Node → Except ReadError Value
  -- A node with an anchor is read where it stands, with all the room there is.
  | .shared node _ => value allows isCurrent deepestNesting node
  | .enclosing isDocument kind _ => .ok (if isDocument && kind == .mapping then .enclosing else .null)
  | .scalar tag style text anchored start => scalarValue isCurrent tag style text anchored start
  | .sequence tag items start =>
    match room, tag with
    | 0, _ => .error (problemOf .tooDeep)
    | room + 1, .core .seq => do return .list (← itemValues allows isCurrent room items)
    | room + 1, .core .orderedMap => do return .mapping (← orderedEntries allows isCurrent room start items [])
    | room + 1, .core .pairs => do return .list (← pairValues allows isCurrent room start items)
    | _ + 1, .core .map => .error (wrongKind .mapping .sequence start)
    | _ + 1, .core .set => .error (wrongKind .mapping .sequence start)
    | room + 1, .named name =>
      Except.mapError (fun _ => problemAt start (.unknownTag (String.ofList name))) do
        return .list (← itemValues allows isCurrent room items)
    | _ + 1, .core .timestamp => .error (notTimestamp start (shownItems items))
    | _ + 1, .core _ => .error (wrongKind .scalar .sequence start)
  | .mapping tag entries start =>
    match room, tag with
    | 0, _ => .error (problemOf .tooDeep)
    | room + 1, .core .map => do
      let merged ← mergedMappings allows isCurrent room start false false entries
      let own ← ownEntries allows isCurrent room start false false entries []
      return .mapping (merged.foldl mergeEntries own)
    | room + 1, .named name => Except.mapError (fun _ => problemAt start (.unknownTag (String.ofList name))) do
      let merged ← mergedMappings allows isCurrent room start false false entries
      let own ← ownEntries allows isCurrent room start false false entries []
      return .mapping (merged.foldl mergeEntries own)
    | room + 1, .core .set => do return .set (← setMembers allows isCurrent room start entries [])
    | _ + 1, .core .seq => .error (wrongKind .sequence .mapping start)
    | _ + 1, .core .orderedMap => .error (notSequence .orderedMap .mapping start)
    | _ + 1, .core .pairs => .error (notSequence .pairs .mapping start)
    | _ + 1, .core .timestamp => .error (notTimestamp start (shownEntries entries))
    | _ + 1, .core _ => .error (wrongKind .scalar .mapping start)

/-- What the items of a sequence stand for. -/
def itemValues (allows isCurrent : Bool) (room : Nat) : List Node → Except ReadError (List Value)
  | [] => .ok []
  | item :: items => do
    let first ← value allows isCurrent room item
    return first :: (← itemValues allows isCurrent room items)

/-- The mappings that the merge keys of a mapping name. -/
def mergedMappings (allows isCurrent : Bool) (room : Nat) (start : Mark) (merges skips : Bool) :
    List (Node × Node) → Except ReadError (List Entries)
  | [] => .ok []
  | (key, named) :: entries =>
    if skips || !key.isMerge then mergedMappings allows isCurrent room start merges false entries
    -- A second merge key is a repeated one, and is refused or left out like any other.
    else if merges then do
      refuse allows (repeatedMerge start key.start)
      mergedMappings allows isCurrent room start merges true entries
    else do
      let found ←
        if named.kind == .mapping then do pure [(← value allows isCurrent room named).entries]
        else mergedSequence allows isCurrent room start named
      return found ++ (← mergedMappings allows isCurrent room start named.addsMerge false entries)

/-- The mappings that a merge key names in a sequence. -/
def mergedSequence (allows isCurrent : Bool) (room : Nat) (start : Mark) : Node → Except ReadError (List Entries)
  | .sequence _ items _ => mergedItems allows isCurrent room start items
  | .shared node _ => mergedSequence allows isCurrent room start node
  | .enclosing _ _ _ => .ok []
  | node => .error (problemWhile .mapping start node.start (.expectedMergedOrList node.kind))

/-- The mappings in a sequence of mappings. -/
def mergedItems (allows isCurrent : Bool) (room : Nat) (start : Mark) : List Node → Except ReadError (List Entries)
  | [] => .ok []
  | item :: items =>
    if item.kind == .mapping then do
      let merged ← value allows isCurrent room item
      return merged.entries :: (← mergedItems allows isCurrent room start items)
    else .error (problemWhile .mapping start item.start (.expectedMerged item.kind))

/-- The entries of a mapping without its merge keys. -/
def ownEntries (allows isCurrent : Bool) (room : Nat) (start : Mark) (merges skips : Bool) :
    List (Node × Node) → Entries → Except ReadError Entries
  | [], read => .ok read
  | (key, own) :: entries, read =>
    if !skips && key.isMerge then
      ownEntries allows isCurrent room start (merges || own.addsMerge) merges entries read
    else do
      let name ← match key with
        | .scalar tag style text anchored here =>
          scalarValue isCurrent (if !skips && tag == .value then .core .str else tag) style text anchored here
        | _ => value allows isCurrent room key
      let name ← keyOrFail start key.start name.asKey?
      let own ← value allows isCurrent room own
      let read ← addEntry allows start key.start read name own
      ownEntries allows isCurrent room start merges false entries read

/-- The members of a set. -/
def setMembers (allows isCurrent : Bool) (room : Nat) (start : Mark) :
    List (Node × Node) → List Value → Except ReadError (List Value)
  | [], read => .ok read
  | (key, named) :: entries, read => do
    let name ← value allows isCurrent room key
    let name ← keyOrFail start key.start name.asMember?
    let _ ← value allows isCurrent room named
    let read ← addMember allows start key.start read name
    setMembers allows isCurrent room start entries read

/-- The entries of an ordered map. -/
def orderedEntries (allows isCurrent : Bool) (room : Nat) (start : Mark) :
    List Node → Entries → Except ReadError Entries
  | [], read => .ok read
  | item :: items, read => do
    let read ← orderedEntry allows isCurrent room start read item
    orderedEntries allows isCurrent room start items read

/-- The entry that one item adds to an ordered map. -/
def orderedEntry (allows isCurrent : Bool) (room : Nat) (start : Mark) (read : Entries) :
    Node → Except ReadError Entries
  | .mapping _ [(key, named)] _ => do
    let name ← value allows isCurrent room key
    -- That repeated keys are allowed is no help here.
    if (valueAtKey? read name).isSome then .error (.breakdown .repeatedPair)
    else do
      let named ← value allows isCurrent room named
      return read ++ [(name, named)]
  | .shared node _ => orderedEntry allows isCurrent room start read node
  | node => .error (notPair .orderedMap start node.start node.kind node.entries.length)

/-- The pairs of a sequence. -/
def pairValues (allows isCurrent : Bool) (room : Nat) (start : Mark) : List Node → Except ReadError (List Value)
  | [] => .ok []
  | item :: items => do
    let pair ← pairValue allows isCurrent room start item
    return pair :: (← pairValues allows isCurrent room start items)

/-- The pair that one item stands for. -/
def pairValue (allows isCurrent : Bool) (room : Nat) (start : Mark) : Node → Except ReadError Value
  | .mapping _ [(key, named)] _ => do
    let name ← value allows isCurrent room key
    let named ← value allows isCurrent room named
    return .tuple [name, named]
  | .shared node _ => pairValue allows isCurrent room start node
  | node => .error (notPair .pairs start node.start node.kind node.entries.length)
end

/-- The value of the only document of a text. -/
def ofText (allows : Bool) (text : List Char) : Except ReadError Value :=
  match firstUnacceptable? 0 text with
  | some failure => .error failure
  | none => do
    let document ← parseTokens (tokensOf text)
    match document.node with
    | none => .ok .null
    | some node => value allows document.isCurrent deepestNesting node

end Settled

variable {text : List Char} {allows isCurrent : Bool} {started mark : Mark}

/-- A repeated key that is noted ends the reading there if it is not allowed. -/
theorem settle_noting (repetition : ReadError) :
    (Outcome.noting repetition).settle allows = Settled.refuse allows repetition := by
  -- Nothing else is read with it.
  cases allows <;> rfl

/-- An entry whose key is there already is noted and left out, so it is refused or left out. -/
theorem settle_addEntry (entries : Entries) (key value : Value) :
    (addEntry started mark entries key value).settle allows =
      Settled.addEntry allows started mark entries key value := by
  unfold addEntry Settled.addEntry
  -- Only a key that is there already makes a difference.
  cases valueAtKey? entries key with
  | none => rfl
  | some original =>
    dsimp only
    rw [Outcome.settle_bind, settle_noting]
    rfl

/-- The same for a member of a set. -/
theorem settle_addMember (members : List Value) (key : Value) :
    (addMember started mark members key).settle allows = Settled.addMember allows started mark members key := by
  unfold addMember Settled.addMember
  -- As for an entry, but the key alone counts.
  split
  · rw [Outcome.settle_bind, settle_noting]
    rfl
  · rfl

/-- A value as a key repeats none. -/
theorem settle_keyOrFail (key : Option Value) :
    (keyOrFail started mark key).settle allows = Settled.keyOrFail started mark key := by
  -- The two only differ in the type of what they give.
  cases key <;> rfl

mutual
/-- A node of a text comes to the same whether its repeated keys are settled at the end or on the way. -/
theorem Node.settle_value {room : Nat} (node : Node) (is_of : node.IsOf text isCurrent) :
    (node.value isCurrent room).settle allows = Settled.value allows isCurrent room node := by
  cases is_of with
  | shared is_of =>
    -- What is kept with an anchored node is what it was read as where it stands.
    rw [Node.value, Settled.value]
    exact Node.settle_value _ is_of
  | enclosing => rw [Node.value, Settled.value, Outcome.settle_known]
  | scalar => rw [Node.value, Settled.value, Outcome.settle_ofResult]
  | @sequence tag items start _ _ items_of =>
    unfold Node.value Settled.value
    -- One case for each tag that a sequence is read under; under any other both fail alike.
    rcases room with _ | room
    · rfl
    · rcases tag with type | name
      · cases type with
        | seq => simp only [Outcome.settle_bind, settle_itemValues items items_of, Outcome.settle_pure]
        | orderedMap => simp only [Outcome.settle_bind, settle_orderedEntries items items_of, Outcome.settle_pure]
        | pairs => simp only [Outcome.settle_bind, settle_pairValues items items_of, Outcome.settle_pure]
        | _ => rfl
      · simp only [Outcome.settle_orElseFail, Outcome.settle_bind, settle_itemValues items items_of,
          Outcome.settle_pure]
  | @mapping tag entries start _ keys_of values_of =>
    unfold Node.value Settled.value
    -- The same for a mapping.
    rcases room with _ | room
    · rfl
    · rcases tag with type | name
      · cases type with
        | map =>
          simp only [Outcome.settle_bind, settle_mergedMappings entries keys_of values_of,
            settle_ownEntries entries keys_of values_of, Outcome.settle_pure]
        | set => simp only [Outcome.settle_bind, settle_setMembers entries keys_of values_of, Outcome.settle_pure]
        | _ => rfl
      · simp only [Outcome.settle_orElseFail, Outcome.settle_bind,
          settle_mergedMappings entries keys_of values_of, settle_ownEntries entries keys_of values_of,
          Outcome.settle_pure]

/-- The items of a sequence. -/
theorem settle_itemValues {room : Nat} (items : List Node) (items_of : ∀ item ∈ items, item.IsOf text isCurrent) :
    (itemValues isCurrent room items).settle allows = Settled.itemValues allows isCurrent room items := by
  -- Induction on the items.
  cases items with
  | nil => rw [itemValues, Settled.itemValues, Outcome.settle_known]
  | cons item items =>
    rw [List.forall_mem_cons] at items_of
    simp only [itemValues, Settled.itemValues, Outcome.settle_bind, Outcome.settle_pure,
      Node.settle_value item items_of.1, settle_itemValues items items_of.2]

/-- The mappings that are merged into another. -/
theorem settle_mergedMappings {merges skips : Bool} {room : Nat} {start : Mark} (entries : List (Node × Node))
    (keys_of : ∀ entry ∈ entries, entry.1.IsOf text isCurrent)
    (values_of : ∀ entry ∈ entries, entry.2.IsOf text isCurrent) :
    (mergedMappings isCurrent room start merges skips entries).settle allows =
      Settled.mergedMappings allows isCurrent room start merges skips entries := by
  cases entries with
  | nil => rw [mergedMappings, Settled.mergedMappings, Outcome.settle_known]
  | cons entry entries =>
    rw [List.forall_mem_cons] at keys_of values_of
    rw [mergedMappings, Settled.mergedMappings]
    split
    · exact settle_mergedMappings entries keys_of.2 values_of.2
    · split
      · -- A second merge key is settled where it stands.
        simp only [Outcome.settle_bind, settle_noting, settle_mergedMappings entries keys_of.2 values_of.2]
      · dsimp only
        split
        · simp only [Outcome.settle_bind, Outcome.settle_pure, Node.settle_value entry.2 values_of.1,
            settle_mergedMappings entries keys_of.2 values_of.2]
        · simp only [Outcome.settle_bind, Outcome.settle_pure, Node.settle_mergedSequence entry.2 values_of.1,
            settle_mergedMappings entries keys_of.2 values_of.2]

/-- The mappings that a node names, one by one. -/
theorem Node.settle_mergedSequence {room : Nat} {start : Mark} (node : Node) (is_of : node.IsOf text isCurrent) :
    (node.mergedSequence isCurrent room start).settle allows =
      Settled.mergedSequence allows isCurrent room start node := by
  -- Only a sequence, or an alias of one, names several mappings.
  cases is_of with
  | shared is_of =>
    rw [Node.mergedSequence, Settled.mergedSequence]
    exact Node.settle_mergedSequence _ is_of
  | sequence _ _ items_of =>
    rw [Node.mergedSequence, Settled.mergedSequence]
    exact settle_mergedItems _ items_of
  | enclosing => rfl
  | scalar => rfl
  | mapping => rfl

/-- The mappings in a sequence. -/
theorem settle_mergedItems {room : Nat} {start : Mark} (items : List Node)
    (items_of : ∀ item ∈ items, item.IsOf text isCurrent) :
    (mergedItems isCurrent room start items).settle allows =
      Settled.mergedItems allows isCurrent room start items := by
  -- Induction on the items, each of which has to name a mapping.
  cases items with
  | nil => rw [mergedItems, Settled.mergedItems, Outcome.settle_known]
  | cons item items =>
    rw [List.forall_mem_cons] at items_of
    rw [mergedItems, Settled.mergedItems]
    split
    · simp only [Outcome.settle_bind, Outcome.settle_pure, Node.settle_value item items_of.1,
        settle_mergedItems items items_of.2]
    · rfl

/-- The entries of a mapping itself. -/
theorem settle_ownEntries {merges skips : Bool} {room : Nat} {start : Mark} {read : Entries}
    (entries : List (Node × Node)) (keys_of : ∀ entry ∈ entries, entry.1.IsOf text isCurrent)
    (values_of : ∀ entry ∈ entries, entry.2.IsOf text isCurrent) :
    (ownEntries isCurrent room start merges skips entries read).settle allows =
      Settled.ownEntries allows isCurrent room start merges skips entries read := by
  -- Induction on the entries: a merge key is passed over, and any other is added, with a scalar key read before its
  -- value.
  cases entries with
  | nil => rw [ownEntries, Settled.ownEntries, Outcome.settle_known]
  | cons entry entries =>
    rw [List.forall_mem_cons] at keys_of values_of
    rw [ownEntries, Settled.ownEntries]
    split
    · exact settle_ownEntries entries keys_of.2 values_of.2
    · dsimp only
      split
      · rename_i scalar
        simp only [scalar, Outcome.settle_bind, Outcome.settle_ofResult, settle_keyOrFail, settle_addEntry,
          Node.settle_value entry.2 values_of.1, settle_ownEntries entries keys_of.2 values_of.2]
      · simp only [Outcome.settle_bind, settle_keyOrFail, settle_addEntry,
          Node.settle_value entry.1 keys_of.1, Node.settle_value entry.2 values_of.1,
          settle_ownEntries entries keys_of.2 values_of.2]

/-- The members of a set. -/
theorem settle_setMembers {room : Nat} {start : Mark} {read : List Value} (entries : List (Node × Node))
    (keys_of : ∀ entry ∈ entries, entry.1.IsOf text isCurrent)
    (values_of : ∀ entry ∈ entries, entry.2.IsOf text isCurrent) :
    (setMembers isCurrent room start entries read).settle allows =
      Settled.setMembers allows isCurrent room start entries read := by
  -- Induction on the entries, whose values are read only for what is wrong with them.
  cases entries with
  | nil => rw [setMembers, Settled.setMembers, Outcome.settle_known]
  | cons entry entries =>
    rw [List.forall_mem_cons] at keys_of values_of
    simp only [setMembers, Settled.setMembers, Outcome.settle_bind, settle_keyOrFail, settle_addMember,
      Node.settle_value entry.1 keys_of.1, Node.settle_value entry.2 values_of.1,
      settle_setMembers entries keys_of.2 values_of.2]

/-- The entries of an ordered map. -/
theorem settle_orderedEntries {room : Nat} {start : Mark} {read : Entries} (items : List Node)
    (items_of : ∀ item ∈ items, item.IsOf text isCurrent) :
    (orderedEntries isCurrent room start items read).settle allows =
      Settled.orderedEntries allows isCurrent room start items read := by
  -- Induction on the items, with the entries read so far.
  cases items with
  | nil => rw [orderedEntries, Settled.orderedEntries, Outcome.settle_known]
  | cons item items =>
    rw [List.forall_mem_cons] at items_of
    simp only [orderedEntries, Settled.orderedEntries, Outcome.settle_bind,
      Node.settle_orderedEntry item items_of.1, settle_orderedEntries items items_of.2]

/-- The entry of one item. -/
theorem Node.settle_orderedEntry {room : Nat} {start : Mark} {read : Entries} (node : Node)
    (is_of : node.IsOf text isCurrent) :
    (node.orderedEntry isCurrent room start read).settle allows =
      Settled.orderedEntry allows isCurrent room start read node := by
  cases is_of with
  | shared is_of =>
    rw [Node.orderedEntry, Settled.orderedEntry]
    exact Node.settle_orderedEntry _ is_of
  | @mapping tag entries own _ keys_of values_of =>
    -- One entry is what the mapping has to have. That it repeats a key is told by a cause of its own, which is
    -- never settled.
    rcases entries with _ | ⟨⟨key, value⟩, _ | ⟨second, more⟩⟩
    · rfl
    · rw [List.forall_mem_singleton] at keys_of values_of
      rw [Node.orderedEntry, Settled.orderedEntry, Outcome.settle_bind, Node.settle_value key keys_of]
      refine bind_congr fun name => ?_
      split
      · rfl
      · simp only [Outcome.settle_bind, Outcome.settle_pure, Node.settle_value value values_of]
    · rfl
  | sequence => rfl
  | enclosing => rfl
  | scalar => rfl

/-- The pairs of a sequence. -/
theorem settle_pairValues {room : Nat} {start : Mark} (items : List Node)
    (items_of : ∀ item ∈ items, item.IsOf text isCurrent) :
    (pairValues isCurrent room start items).settle allows =
      Settled.pairValues allows isCurrent room start items := by
  -- Induction on the items.
  cases items with
  | nil => rw [pairValues, Settled.pairValues, Outcome.settle_known]
  | cons item items =>
    rw [List.forall_mem_cons] at items_of
    simp only [pairValues, Settled.pairValues, Outcome.settle_bind, Outcome.settle_pure,
      Node.settle_pairValue item items_of.1, settle_pairValues items items_of.2]

/-- The pair of one item. -/
theorem Node.settle_pairValue {room : Nat} {start : Mark} (node : Node) (is_of : node.IsOf text isCurrent) :
    (node.pairValue isCurrent room start).settle allows = Settled.pairValue allows isCurrent room start node := by
  cases is_of with
  | shared is_of =>
    rw [Node.pairValue, Settled.pairValue]
    exact Node.settle_pairValue _ is_of
  | @mapping tag entries own _ keys_of values_of =>
    -- One entry is what the mapping has to have.
    rcases entries with _ | ⟨⟨key, value⟩, _ | ⟨second, more⟩⟩
    · rfl
    · rw [List.forall_mem_singleton] at keys_of values_of
      simp only [Node.pairValue, Settled.pairValue, Outcome.settle_bind, Outcome.settle_pure,
        Node.settle_value key keys_of, Node.settle_value value values_of]
    · rfl
  | sequence => rfl
  | enclosing => rfl
  | scalar => rfl
end

/-- A text comes to the same whether its repeated keys are settled at the end or on the way. -/
theorem settle_readText (text : List Char) (allows : Bool) :
    (readText text).settle allows = Settled.ofText allows text := by
  -- The nodes that the tokens make up are nodes of the text.
  have nodes := parseTokens_gives text
  unfold readText Settled.ofText
  cases firstUnacceptable? 0 text with
  | some failure => rfl
  | none =>
    cases parsed : parseTokens (tokensOf text) with
    | error failure => rfl
    | ok document =>
      rw [parsed] at nodes
      obtain ⟨root, isCurrent⟩ := document
      cases root with
      | none => rfl
      | some node => exact Node.settle_value node (nodes node rfl)

/-- A reader that refuses repeated keys on the spot reads a value exactly if the one that leaves them out reads it
and notes none. -/
theorem Settled.ofText_refusing_iff_allowing (text : List Char) (value : Value) :
    Settled.ofText false text = .ok value ↔
      Settled.ofText true text = .ok value ∧ (readText text).repeated = none := by
  -- Both readers come to what the noting one does when it is settled.
  rw [← settle_readText, ← settle_readText, Outcome.settle_false_eq_ok_iff, Outcome.settle_true]

end PlanLint
