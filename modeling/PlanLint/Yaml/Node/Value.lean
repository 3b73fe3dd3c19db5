import PlanLint.Document.SameKey
import PlanLint.Yaml.Node
import PlanLint.Yaml.Scalar.Base64
import PlanLint.Yaml.Scalar.Number

/-! What the nodes of a document stand for. -/

namespace PlanLint

/-- The most collections that may be nested in one another. -/
def deepestNesting : Nat := 200

/-- The truth value of a word in small letters. -/
def booleanOf? (word : List Char) : Option Bool :=
  if ["yes", "y", "true", "on"].contains (String.ofList word) then some true
  else if ["no", "n", "false", "off"].contains (String.ofList word) then some false
  else none

/-- The problem of a node of the wrong kind for its type. -/
def wrongKind (kind found : NodeKind) (start : Mark) : ReadError :=
  problemAt start (.expectedKind kind found)

/-- The problem of a collection where a timestamp is asked for. -/
def notTimestamp (start : Mark) (parts : List String) : ReadError :=
  problemAt start (.badTimestamp (bracketed parts))

/-- The problem of a list of pairs that is no sequence. -/
def notSequence (activity : Activity) (found : NodeKind) (start : Mark) : ReadError :=
  problemWhile activity start start (.expectedSequence found)

/-- What a scalar stands for. -/
def scalarValue (isCurrent : Bool) (tag : Tag) (style : ScalarStyle) (text : List Char)
    (anchored : Bool) (start : Mark) : Except ReadError Value :=
  match tag with
  | .named name => .ok (.tagged (String.ofList name) style (String.ofList text))
  | .core .null => .ok .null
  | .core .bool =>
    let word := smallLetters text
    match booleanOf? word with
    -- A boolean with an anchor is of another type, which shows when it is printed.
    | some b => .ok (if anchored then .anchoredBool b else .bool b)
    | none => .error (.breakdown (.unknownBoolean word))
  | .core .int => (readInteger isCurrent text).map .int
  | .core .float => (readFloat isCurrent text).map .float
  | .core .binary =>
    match decodeBase64 text with
    | .ok bytes => .ok (.bytes bytes)
    | .error fault => .error (problemAt start (.badBase64 fault))
  | .core .timestamp => readMoment start text
  | .core .str => .ok (.text (String.ofList text))
  | .core .seq => .error (wrongKind .sequence .scalar start)
  | .core .map => .error (wrongKind .mapping .scalar start)
  | .core .set => .error (wrongKind .mapping .scalar start)
  | .core .orderedMap => .error (notSequence .orderedMap .scalar start)
  | .core .pairs => .error (notSequence .pairs .scalar start)

/-- A value in the form that it has as a key, if it can be one. -/
def Value.asKey? : Value → Option Value
  | .list items => some (.tuple items)
  | .mapping entries => some (.keyMapping entries)
  | .set _ => none
  | value => some value

/-- A value in the form that it has in a set, if it can be there. -/
def Value.asMember? : Value → Option Value
  | .list items => some (.tuple items)
  | .mapping _ => none
  | .set _ => none
  | value => some value

/-- The entries of a value that is a mapping. -/
def Value.entries : Value → Entries
  | .mapping entries => entries
  | _ => []

/-- A message that shows values, unless one of them cannot be shown. -/
def showing (reason : Except Unprintable Reason) : Reason :=
  match reason with
  | .ok reason => reason
  -- What cannot be shown takes the place of the message.
  | .error .tooManyDigits => .unprintable
  | .error .endless => .tooDeep

/-- The problem of a reason, placed unless the reason is that a value cannot be shown. -/
def placedProblem (activity : Activity) (started mark : Mark) (reason : Reason) : ReadError :=
  if reason == .unprintable || reason == .tooDeep then problemOf reason
  else problemWhile activity started mark reason

/-- The problem of an entry whose key was there already. -/
def repeatedEntry (started mark : Mark) (key value original : Value) : ReadError :=
  placedProblem .mapping started mark <| showing do
    return .repeatedEntry (← key.shown) (← value.shown) (← original.shown)

/-- The problem of a member that a set has already. -/
def repeatedMember (started mark : Mark) (key : Value) : ReadError :=
  placedProblem .set started mark <| showing do return .repeatedKey (← key.shown)

/-- The problem of a second merge key. -/
def repeatedMerge (started mark : Mark) : ReadError :=
  problemWhile .mapping started mark (.repeatedKey "<<")

/-- Entries with one more, unless its key is there already; the repetition is noted then. -/
def addEntry (started mark : Mark) (entries : Entries) (key value : Value) : Outcome Entries :=
  match valueAtKey? entries key with
  | none => .known (entries ++ [(key, value)])
  | some original => do
    .noting (repeatedEntry started mark key value original)
    return entries

/-- Members with one more, unless it is there already. -/
def addMember (started mark : Mark) (members : List Value) (key : Value) : Outcome (List Value) :=
  if members.any (·.sameKey key) then do
    .noting (repeatedMember started mark key)
    return members
  else .known (members ++ [key])

/-- Entries and those of another mapping whose keys they lack. -/
def mergeEntries (entries merged : Entries) : Entries :=
  merged.foldl (fun entries entry =>
    if (valueAtKey? entries entry.1).isSome then entries else entries ++ [entry]) entries

/-- A value as a key, or the problem of one that cannot be a key. -/
def keyOrFail (started mark : Mark) (key : Option Value) : Outcome Value :=
  match key with
  | some key => .known key
  | none => .failed (problemWhile .mapping started mark .unhashableKey)

/-- Whether a key asks for a merge. -/
def Node.isMerge (node : Node) : Bool := node.tag? == some .merge

/-- Whether a merge of a node adds any mapping, even an empty one. -/
def Node.addsMerge (node : Node) : Bool := node.kind == .mapping || !node.items.isEmpty

/-- The problem of an item that is no pair in a list of pairs. -/
def notPair (activity : Activity) (started mark : Mark) (kind : NodeKind) (count : Nat) : ReadError :=
  problemWhile activity started mark
    (if kind == .mapping then .expectedOnePair count else .expectedPair kind)

mutual
/-- What a node stands for; `room` is how many more collections may be nested. -/
def Node.value (isCurrent : Bool) (room : Nat) : Node → Outcome Value
  | .shared _ value => value
  -- What is not complete yet stands for nothing, except the document as a whole.
  | .enclosing isDocument kind _ =>
    .known (if isDocument && kind == .mapping then .enclosing else .null)
  | .scalar tag style text anchored start =>
    .ofResult (scalarValue isCurrent tag style text anchored start)
  | .sequence tag items start =>
    match room, tag with
    | 0, _ => .failed (problemOf .tooDeep)
    | room + 1, .core .seq => do return .list (← itemValues isCurrent room items)
    | room + 1, .core .orderedMap => do
      return .mapping (← orderedEntries isCurrent room start items [])
    | room + 1, .core .pairs => do return .list (← pairValues isCurrent room start items)
    | _ + 1, .core .map => .failed (wrongKind .mapping .sequence start)
    | _ + 1, .core .set => .failed (wrongKind .mapping .sequence start)
    | room + 1, .named name => Outcome.orElseFail
      (do return .list (← itemValues isCurrent room items))
      (problemAt start (.unknownTag (String.ofList name)))
    | _ + 1, .core .timestamp => .failed (notTimestamp start (shownItems items))
    | _ + 1, .core _ => .failed (wrongKind .scalar .sequence start)
  | .mapping tag entries start =>
    match room, tag with
    | 0, _ => .failed (problemOf .tooDeep)
    | room + 1, .core .map => do
      let merged ← mergedMappings isCurrent room start false false entries
      let own ← ownEntries isCurrent room start false false entries []
      -- Merged entries come behind the mapping's own and never replace them.
      return .mapping (merged.foldl mergeEntries own)
    | room + 1, .named name => Outcome.orElseFail (do
        let merged ← mergedMappings isCurrent room start false false entries
        let own ← ownEntries isCurrent room start false false entries []
        return .mapping (merged.foldl mergeEntries own))
      (problemAt start (.unknownTag (String.ofList name)))
    | room + 1, .core .set => do return .set (← setMembers isCurrent room start entries [])
    | _ + 1, .core .seq => .failed (wrongKind .sequence .mapping start)
    | _ + 1, .core .orderedMap => .failed (notSequence .orderedMap .mapping start)
    | _ + 1, .core .pairs => .failed (notSequence .pairs .mapping start)
    | _ + 1, .core .timestamp => .failed (notTimestamp start (shownEntries entries))
    | _ + 1, .core _ => .failed (wrongKind .scalar .mapping start)

/-- What the items of a sequence stand for. -/
def itemValues (isCurrent : Bool) (room : Nat) : List Node → Outcome (List Value)
  | [] => .known []
  | item :: items => do
    let value ← item.value isCurrent room
    return value :: (← itemValues isCurrent room items)

/-- The mappings that the merge keys of a mapping name. `merges` tells that there was one before, and
`skips` that the next key is not looked at. -/
def mergedMappings (isCurrent : Bool) (room : Nat) (start : Mark) (merges skips : Bool) :
    List (Node × Node) → Outcome (List Entries)
  | [] => .known []
  | (key, value) :: entries =>
    if skips || !key.isMerge then mergedMappings isCurrent room start merges false entries
    -- A second merge key is a repeated one, and the key behind it is not looked at.
    else if merges then do
      .noting (repeatedMerge start key.start)
      mergedMappings isCurrent room start merges true entries
    else do
      let found ←
        if value.kind == .mapping then do pure [(← value.value isCurrent room).entries]
        else value.mergedSequence isCurrent room start
      return found ++ (← mergedMappings isCurrent room start value.addsMerge false entries)

/-- The mappings that a merge key names in a sequence. -/
def Node.mergedSequence (isCurrent : Bool) (room : Nat) (start : Mark) : Node → Outcome (List Entries)
  | .sequence _ items _ => mergedItems isCurrent room start items
  | .shared node _ => node.mergedSequence isCurrent room start
  | .enclosing _ _ _ => .known []
  | node => .failed (problemWhile .mapping start node.start (.expectedMergedOrList node.kind))

/-- The mappings in a sequence of mappings. -/
def mergedItems (isCurrent : Bool) (room : Nat) (start : Mark) : List Node → Outcome (List Entries)
  | [] => .known []
  | item :: items =>
    if item.kind == .mapping then do
      let value ← item.value isCurrent room
      return value.entries :: (← mergedItems isCurrent room start items)
    else .failed (problemWhile .mapping start item.start (.expectedMerged item.kind))

/-- The entries of a mapping without its merge keys. -/
def ownEntries (isCurrent : Bool) (room : Nat) (start : Mark) (merges skips : Bool) :
    List (Node × Node) → Entries → Outcome Entries
  | [], read => .known read
  | (key, value) :: entries, read =>
    -- Merge keys are left out; behind a second one the next key is taken as it is.
    if !skips && key.isMerge then
      ownEntries isCurrent room start (merges || value.addsMerge) merges entries read
    else do
      let name ← match key with
        -- The key that stands for a value is a plain text here.
        | .scalar tag style text anchored own =>
          Outcome.ofResult
            (scalarValue isCurrent (if !skips && tag == .value then .core .str else tag) style text anchored own)
        | _ => key.value isCurrent room
      let name ← keyOrFail start key.start name.asKey?
      let value ← value.value isCurrent room
      let read ← addEntry start key.start read name value
      ownEntries isCurrent room start merges false entries read

/-- The members of a set: the keys of a mapping, whose values do not count. -/
def setMembers (isCurrent : Bool) (room : Nat) (start : Mark) :
    List (Node × Node) → List Value → Outcome (List Value)
  | [], read => .known read
  | (key, value) :: entries, read => do
    let name ← key.value isCurrent room
    let name ← keyOrFail start key.start name.asMember?
    -- The values do not count, but what is wrong with them does.
    let _ ← value.value isCurrent room
    let read ← addMember start key.start read name
    setMembers isCurrent room start entries read

/-- The entries of an ordered map: a sequence of mappings with one entry each. -/
def orderedEntries (isCurrent : Bool) (room : Nat) (start : Mark) :
    List Node → Entries → Outcome Entries
  | [], read => .known read
  | item :: items, read => do
    let read ← item.orderedEntry isCurrent room start read
    orderedEntries isCurrent room start items read

/-- The entry that one item adds to an ordered map. -/
def Node.orderedEntry (isCurrent : Bool) (room : Nat) (start : Mark) (read : Entries) :
    Node → Outcome Entries
  | .mapping _ [(key, value)] _ => do
    let name ← key.value isCurrent room
    -- A repeated key is no problem of the text here: reading breaks off.
    if (valueAtKey? read name).isSome then .failed (.breakdown .repeatedPair)
    else do
      let value ← value.value isCurrent room
      return read ++ [(name, value)]
  | .shared node _ => node.orderedEntry isCurrent room start read
  | node => .failed (notPair .orderedMap start node.start node.kind node.entries.length)

/-- The pairs of a sequence of mappings with one entry each. -/
def pairValues (isCurrent : Bool) (room : Nat) (start : Mark) : List Node → Outcome (List Value)
  | [] => .known []
  | item :: items => do
    let pair ← item.pairValue isCurrent room start
    return pair :: (← pairValues isCurrent room start items)

/-- The pair that one item stands for. -/
def Node.pairValue (isCurrent : Bool) (room : Nat) (start : Mark) : Node → Outcome Value
  | .mapping _ [(key, value)] _ => do
    let name ← key.value isCurrent room
    let value ← value.value isCurrent room
    return .tuple [name, value]
  | .shared node _ => node.pairValue isCurrent room start
  | node => .failed (notPair .pairs start node.start node.kind node.entries.length)
end

end PlanLint
