import PlanLint.Proofs.Yaml.Node.Value
import PlanLint.Proofs.Yaml.Token.Lexer

/-! The nodes that are read from the tokens of a text are its own, and so are the failures. -/

namespace PlanLint

variable {text : List Char} {α β : Type}

/-- The words for truth and falsehood, in small letters, are known ones. -/
theorem booleanOf?_isSome {word : String} (listed : word ∈ booleanWords ++ firstBooleanWords) :
    (booleanOf? (smallLetters word.toList)).isSome = true := by
  -- The two tables of words are short.
  have all : ∀ word ∈ booleanWords ++ firstBooleanWords, (booleanOf? (smallLetters word.toList)).isSome = true := by
    decide
  exact all word listed

/-- A plain scalar that no line break ends is only taken for a boolean if it is one. -/
theorem booleanOf?_of_ofPlain {isFirst : Bool} {word : List Char} (ends : word.getLast? ≠ some '\n')
    (boolean : Tag.ofPlain isFirst word = .core .bool) : (booleanOf? (smallLetters word)).isSome = true := by
  have whole : withoutLastNewline word = word := by rw [withoutLastNewline, if_neg (by simpa using ends)]
  unfold Tag.ofPlain at boolean
  simp only [whole, ite_self] at boolean
  split at boolean
  · rename_i listed
    simp only [Bool.or_eq_true, Bool.and_eq_true, List.contains_iff_mem] at listed
    have member : String.ofList word ∈ booleanWords ++ firstBooleanWords :=
      List.mem_append.mpr (listed.imp_right And.right)
    simpa using booleanOf?_isSome member
  · -- No other shape makes a boolean.
    repeat' split at boolean
    all_goals simp [Tag.merge, Tag.value] at boolean

/-- A token among those of a text. -/
def Token.IsIn (text : List Char) (token : Token) : Prop := token ∈ (tokensOf text).tokens

namespace Token.IsIn

variable {token : Token}

/-- What a token of a text tells by its kind. -/
theorem of_kind {kind : TokenKind} (is_in : token.IsIn text) (same : token.kind = kind) : kind.IsOf text :=
  ((tokensOf_isOf text).tokens token is_in).of_kind same

/-- A token starts at a place of its text. -/
theorem start (is_in : token.IsIn text) : token.start.IsPlaceOf text :=
  ((tokensOf_isOf text).tokens token is_in).start

/-- A token ends at a place of its text. -/
theorem stop (is_in : token.IsIn text) : token.stop.IsPlaceOf text :=
  ((tokensOf_isOf text).tokens token is_in).stop

end Token.IsIn

/-- A parser of a text: what it is still to read are tokens of the text, and its handles and its version are
those that every text has or that a directive gives. -/
structure Parser.IsOf (text : List Char) (p : Parser) : Prop where
  tokens : ∀ token ∈ p.tokens, token.IsIn text
  failure : p.failure = (tokensOf text).failure
  handles : ∀ handle ∈ p.handles, IsHandleIn text handle
  version : p.version = currentVersion ∨ IsVersionIn text p.version

/-- What is known of a parser's version and of its anchored nodes. -/
abbrev Known := Nat × Nat → List (List Char × Node) → Prop

/-- The version has the rules of the current one or has not, and by these rules the anchored nodes are nodes of
the text. -/
def NodesAreOf (text : List Char) (isCurrent : Bool) : Known := fun version anchors =>
  (version == currentVersion) = isCurrent ∧ ∀ entry ∈ anchors, entry.2.IsOf text isCurrent

/-- What a reader does with a parser of a text of which something is known: it leaves a parser of the text, of
which and of what was read something else is known, or its failure belongs to the text. -/
def Runs (text : List Char) (before : Parser → Prop) (after : α → Parser → Prop) (reader : Parse α) : Prop :=
  ∀ p : Parser, p.IsOf text → before p →
    Gives text (Breakdown.StandsIn text) (fun read => read.2.IsOf text ∧ after read.1 read.2) (reader p)

/-- A reader gives something with a property, and leaves what is known of a parser as it is. -/
def Reads (text : List Char) (known : Known) (holds : α → Prop) (reader : Parse α) : Prop :=
  Runs text (fun p => known p.version p.anchors) (fun a p => holds a ∧ known p.version p.anchors) reader

/-- A reader of nodes, by the rules of the current version or not. -/
abbrev ReadsBy (text : List Char) (isCurrent : Bool) (holds : α → Prop) (reader : Parse α) : Prop :=
  Reads text (NodesAreOf text isCurrent) holds reader

variable {known : Known} {isCurrent : Bool}

namespace Runs

variable {before : Parser → Prop} {after : β → Parser → Prop}

/-- What is known tells the rest. -/
theorem pure {b : β} (tells : ∀ p, before p → after b p) : Runs text before after (Pure.pure b) :=
  fun p is_of knows => ⟨is_of, tells p knows⟩

/-- One reader after another. -/
theorem bind {between : α → Parser → Prop} {first : Parse α} {next : α → Parse β}
    (runs : Runs text before between first) (then_runs : ∀ a, Runs text (between a) after (next a)) :
    Runs text before after (first >>= next) :=
  fun p is_of knows => (runs p is_of knows).bind fun read held => then_runs read.1 read.2 held.1 held.2

/-- A reader that looks at the parser itself. -/
theorem get_bind {next : Parser → Parse β} (then_runs : ∀ p, Runs text before after (next p)) :
    Runs text before after (get >>= next) :=
  fun p is_of knows => then_runs p p is_of knows

/-- More that is known before, and less behind. -/
theorem mono {more : Parser → Prop} {less : β → Parser → Prop} {reader : Parse β}
    (runs : Runs text before after reader) (tells : ∀ p, more p → before p)
    (weakens : ∀ b p, after b p → less b p) : Runs text more less reader :=
  fun p is_of knows => (runs p is_of (tells p knows)).mono fun read held => ⟨held.1, weakens read.1 read.2 held.2⟩

end Runs

namespace Reads

variable {holds : α → Prop} {later : β → Prop}

/-- What is there has the property. -/
theorem pure {a : α} (held : holds a) : Reads text known holds (Pure.pure a) :=
  Runs.pure fun _ knows => ⟨held, knows⟩

/-- A failure that belongs to the text. -/
theorem throw {failure : ReadError} (belongs : failure.IsOf text (Breakdown.StandsIn text)) :
    Reads text known holds (MonadExcept.throw failure) := fun _ _ _ => belongs

/-- Nothing is read behind a failure. -/
theorem throw_bind {failure : ReadError} {next : α → Parse β}
    (belongs : failure.IsOf text (Breakdown.StandsIn text)) :
    Reads text known later (MonadExcept.throw failure >>= next) := fun _ _ _ => belongs

/-- One reader after another. -/
theorem bind {first : Parse α} {next : α → Parse β} (reads : Reads text known holds first)
    (then_reads : ∀ a, holds a → Reads text known later (next a)) : Reads text known later (first >>= next) :=
  Runs.bind reads fun a p is_of knows => then_reads a knows.1 p is_of knows.2

/-- A reader that looks at the parser itself. -/
theorem get_bind {next : Parser → Parse β}
    (then_reads : ∀ p, p.IsOf text → known p.version p.anchors → Reads text known later (next p)) :
    Reads text known later (get >>= next) :=
  fun p is_of knows => then_reads p is_of knows p is_of knows

/-- A change of the parser that keeps what is known of it. -/
theorem modify {change : Parser → Parser}
    (keeps : ∀ p : Parser, p.IsOf text → known p.version p.anchors →
      (change p).IsOf text ∧ known (change p).version (change p).anchors) :
    Reads text known (fun _ => True) (modify change : Parse Unit) :=
  fun p is_of knows => ⟨(keeps p is_of knows).1, trivial, (keeps p is_of knows).2⟩

/-- A choice between two readers. -/
theorem ite {condition : Prop} [Decidable condition] {yes no : Parse α}
    (first : condition → Reads text known holds yes) (second : ¬ condition → Reads text known holds no) :
    Reads text known holds (if condition then yes else no) := by
  -- Each of the two may use what the choice tells.
  split
  · exact first ‹_›
  · exact second ‹_›

end Reads

namespace Parser

/-- The next token is one of the text. -/
theorem peek_reads : Reads text known (·.IsIn text) peek := by
  refine .get_bind fun p is_of _ => ?_
  -- Without another token the failure of the lexer is reported, if it has one.
  split
  · rename_i token rest tokens
    exact .pure (is_of.tokens token (by simp [tokens]))
  · refine .throw ?_
    cases failed : p.failure with
    | none => exact problemOf_isOf
    | some failure =>
      rw [is_of.failure] at failed
      cases (tokensOf_isOf text).failure failure failed with
      | problem placed => exact .problem placed
      | breakdown broken =>
        obtain ⟨rfl, written⟩ := broken
        exact .breakdown (.hugeCode failed written)

/-- The same where the token is behind then. -/
theorem take_reads : Reads text known (·.IsIn text) take := by
  refine peek_reads.bind fun token is_in => ?_
  refine (Reads.modify fun p is_of knows => ?_).bind fun _ _ => .pure is_in
  -- Nothing but the tokens changes, and those that are left were there before.
  exact ⟨⟨fun token member => is_of.tokens token (List.mem_of_mem_drop member), is_of.failure, is_of.handles,
    is_of.version⟩, knows⟩

/-- The tag of a plain scalar, by the rules of the version. -/
theorem plainTag_reads {word : List Char} :
    Reads text known (fun tag => ∃ isFirst, tag = .ofPlain isFirst word) (plainTag word) := by
  refine .get_bind fun p is_of _ => ?_
  dsimp only
  refine .ite (fun _ => .pure ⟨_, rfl⟩) fun other => .throw ?_
  -- There are rules for the current version and the first one; any other is written in a directive.
  simp only [Bool.or_eq_true, beq_iff_eq, not_or] at other
  rcases is_of.version with current | named
  · exact absurd current other.1
  · exact .breakdown (.unknownVersion named other)

/-- A scalar that is left out. -/
theorem emptyScalar_reads {mark : Mark} (place : mark.IsPlaceOf text) :
    ReadsBy text isCurrent (·.IsOf text isCurrent) (emptyScalar mark) := by
  -- Its tag is that of an empty plain scalar, which asks for no boolean that it is not.
  refine plainTag_reads.bind fun tag plain => .pure (.scalar place fun boolean => .inl ?_)
  obtain ⟨isFirst, rfl⟩ := plain
  exact booleanOf?_of_ofPlain (by simp) boolean

/-- Properties of a text. -/
structure Properties.IsOf (text : List Char) (properties : Properties) : Prop where
  tag : ∀ name ∈ properties.tag, ∃ token : Token, token.IsIn text ∧ token.kind = .tag name
  start : ∀ mark ∈ properties.start, mark.IsPlaceOf text
  tagMark : ∀ mark ∈ properties.tagMark, mark.IsPlaceOf text

/-- The anchor and the tag in front of a node. -/
theorem readProperties_reads : Reads text known (Properties.IsOf text) readProperties := by
  refine peek_reads.bind fun first is_first => ?_
  have start := is_first.start
  -- An anchor may be followed by a tag, and a tag by an anchor.
  split
  · refine take_reads.bind fun _ _ => peek_reads.bind fun second is_second => ?_
    have mark := is_second.start
    split
    · rename_i tag same
      have tagged : ∃ token : Token, token.IsIn text ∧ token.kind = .tag tag := ⟨second, is_second, same⟩
      exact take_reads.bind fun _ _ => .pure ⟨by simpa using tagged, by simpa using start, by simpa using mark⟩
    · exact .pure ⟨by simp, by simpa using start, by simp⟩
  · rename_i tag same
    have tagged : ∃ token : Token, token.IsIn text ∧ token.kind = .tag tag := ⟨first, is_first, same⟩
    refine take_reads.bind fun _ _ => peek_reads.bind fun second is_second => ?_
    have mark := is_second.start
    split
    · exact take_reads.bind fun _ _ => .pure ⟨by simpa using tagged, by simpa using mark, by simpa using mark⟩
    · exact .pure ⟨by simpa using tagged, by simpa using start, by simpa using start⟩
  · exact .pure ⟨by simp, by simp, by simp⟩

/-- The tag that the properties name; one is only given where it is written. -/
theorem givenTag_reads {properties : Properties} {start : Mark} (is_of : Properties.IsOf text properties)
    (place : start.IsPlaceOf text) :
    Reads text known (fun given => ∀ tag ∈ given, tag.IsNamedIn text) (givenTag properties start) := by
  unfold givenTag
  split
  · exact .pure (by simp)
  · rename_i name named
    obtain ⟨token, is_in, tagged⟩ := is_of.tag name named
    refine .get_bind fun p parser _ => ?_
    split
    · rename_i tag resolved
      refine .pure fun given same => ?_
      -- A lone exclamation mark gives no tag.
      obtain rfl : given = tag := by
        split at same
        · simp at same
        · exact (Option.some.inj same).symm
      exact ⟨token, is_in, name, p.handles, tagged, parser.handles, resolved⟩
    · refine .throw (problemWhile_isOf ?_)
      -- The place of the tag, or that of the node if the tag has none of its own.
      cases mark : properties.tagMark with
      | none => exact place
      | some mark' => exact is_of.tagMark mark' mark

/-- A node of the text under a name. -/
theorem bindAnchor_reads {name : Option (List Char)} {node : Node} (is_of : node.IsOf text isCurrent) :
    ReadsBy text isCurrent (fun _ => True) (bindAnchor name node) := by
  unfold bindAnchor
  -- Without a name nothing is bound; with one there is one more node that an alias can name.
  split
  · exact .pure trivial
  · refine .modify fun p parser knows => ⟨⟨parser.tokens, parser.failure, parser.handles, parser.version⟩, ?_⟩
    exact ⟨knows.1, List.forall_mem_cons.mpr ⟨is_of, knows.2⟩⟩

/-- A complete node. -/
theorem complete_reads {anchor : Option (List Char)} {node : Node} (is_of : node.IsOf text isCurrent) :
    ReadsBy text isCurrent (·.IsOf text isCurrent) (complete anchor node) := by
  unfold complete
  split
  · exact .pure is_of
  · refine .get_bind fun p _ knows => ?_
    dsimp only
    -- The value is worked out when the node is complete, so that every alias has the same.
    rw [knows.1]
    exact (bindAnchor_reads (.shared is_of)).bind fun _ _ => .pure (.shared is_of)

/-- The node that an alias names. -/
theorem aliased_reads {name : List Char} {start : Mark} (place : start.IsPlaceOf text) :
    ReadsBy text isCurrent (·.IsOf text isCurrent) (aliased name start) := by
  refine .get_bind fun p _ knows => ?_
  -- The name is that of an anchored node, or it is reported.
  split
  · rename_i entry found
    exact .pure (knows.2 entry (List.mem_of_find?_eq_some found))
  · exact .throw (problemAt_isOf place)

/-- A lone exclamation mark among the properties is one of the text. -/
theorem Properties.IsOf.loneMark {properties : Properties} (is_of : Properties.IsOf text properties)
    (asks : properties.tag.any (·.isPlain) = true) : HoldsLoneMark text := by
  cases named : properties.tag with
  | none => simp [named] at asks
  | some name =>
    -- The token that gave the tag is the one to name.
    obtain ⟨token, is_in, tagged⟩ := is_of.tag name named
    exact ⟨token, is_in, name, tagged, by simpa [named] using asks⟩

/-- A scalar with its properties. -/
theorem scalarNode_reads {properties : Properties} {given : Option Tag} {style : ScalarStyle} {word : List Char}
    {start : Mark} (is_of : Properties.IsOf text properties) (named : ∀ tag ∈ given, tag.IsNamedIn text)
    (ends : style = .plain → word.getLast? ≠ some '\n') (place : start.IsPlaceOf text) :
    ReadsBy text isCurrent (·.IsOf text isCurrent)
      (scalarNode properties given style word start) := by
  unfold scalarNode
  -- Whatever the tag is, it is explicit or the text of the scalar has it.
  have made : ∀ tag : Tag,
      (tag = .core .bool → (booleanOf? (smallLetters word)).isSome = true ∨ AsksForBoolean text word) →
      ReadsBy text isCurrent (·.IsOf text isCurrent)
        (complete properties.anchor (.scalar tag style word properties.anchor.isSome start)) :=
    fun tag asked => complete_reads (.scalar place asked)
  dsimp only
  split
  · rename_i tag
    exact made tag fun boolean => .inr (.inl (boolean ▸ named tag rfl))
  · -- The text decides for a plain scalar, and for any under a lone exclamation mark.
    refine .ite (fun asks => plainTag_reads.bind fun tag plain => made _ fun boolean => ?_) fun _ => ?_
    · obtain ⟨isFirst, rfl⟩ := plain
      by_cases newline : word.getLast? = some '\n'
      · -- Only a lone exclamation mark makes the word of such a scalar count.
        rw [Bool.or_eq_true, beq_iff_eq] at asks
        exact .inr (.inr ⟨is_of.loneMark (asks.resolve_left fun plain => ends plain newline), newline⟩)
      · exact .inl (booleanOf?_of_ofPlain newline boolean)
    · exact made _ (by simp)

/-- Items that are nodes of a text. -/
def ItemsAreOf (text : List Char) (isCurrent : Bool) (items : List Node) : Prop :=
  ∀ item ∈ items, item.IsOf text isCurrent

/-- Entries whose keys and values are nodes of a text. -/
def EntriesAreOf (text : List Char) (isCurrent : Bool) (entries : List (Node × Node)) : Prop :=
  ∀ entry ∈ entries, entry.1.IsOf text isCurrent ∧ entry.2.IsOf text isCurrent

/-- The readers of nodes and of the parts of collections, all with the same fuel. -/
structure ReadersAt (text : List Char) (isCurrent : Bool) (fuel : Nat) : Prop where
  node : ∀ place, ReadsBy text isCurrent (·.IsOf text isCurrent) (readNode fuel place)
  blockItems : ∀ opened, ReadsBy text isCurrent (ItemsAreOf text isCurrent) (readBlockItems fuel opened)
  indentlessItems : ReadsBy text isCurrent (ItemsAreOf text isCurrent) (readIndentlessItems fuel)
  blockEntries : ∀ opened, ReadsBy text isCurrent (EntriesAreOf text isCurrent) (readBlockEntries fuel opened)
  blockValue : ReadsBy text isCurrent (·.IsOf text isCurrent) (readBlockValue fuel)
  flowItems : ∀ opened isFirst,
    ReadsBy text isCurrent (ItemsAreOf text isCurrent) (readFlowItems fuel opened isFirst)
  flowPair : ReadsBy text isCurrent (·.IsOf text isCurrent) (readFlowPair fuel)
  flowEntries : ∀ opened isFirst,
    ReadsBy text isCurrent (EntriesAreOf text isCurrent) (readFlowEntries fuel opened isFirst)
  flowValue : ReadsBy text isCurrent (·.IsOf text isCurrent) (readFlowValue fuel)

/-- Without fuel nothing is read. -/
theorem readersAt_zero : ReadersAt text isCurrent 0 := by
  -- Each reader fails there with a problem that has no place.
  constructor <;> intros <;> exact .throw problemOf_isOf

variable {fuel : Nat}

/-- A node that may be left out, and what is read behind it. -/
theorem ReadersAt.optional {condition : Prop} [Decidable condition] {mark : Mark} {holds : β → Prop}
    {next : Node → Parse β} (readers : ReadersAt text isCurrent fuel) (mark_place : mark.IsPlaceOf text)
    (place : NodePlace)
    (later : ∀ node : Node, node.IsOf text isCurrent → ReadsBy text isCurrent holds (next node)) :
    ReadsBy text isCurrent holds
      (if condition then (do let node ← emptyScalar mark; next node)
      else (do let node ← readNode fuel place; next node)) :=
  .ite (fun _ => (emptyScalar_reads mark_place).bind later) fun _ => (readers.node place).bind later

/-- One more item in front of those that follow. -/
theorem cons_reads {node : Node} {rest : Parse (List Node)} (is_of : node.IsOf text isCurrent)
    (reads : ReadsBy text isCurrent (ItemsAreOf text isCurrent) rest) :
    ReadsBy text isCurrent (ItemsAreOf text isCurrent) (do return node :: (← rest)) :=
  reads.bind fun _ are_of => .pure (List.forall_mem_cons.mpr ⟨is_of, are_of⟩)

/-- One more entry in front of those that follow. -/
theorem cons_entry_reads {key value : Node} {rest : Parse (List (Node × Node))} (key_is_of : key.IsOf text isCurrent)
    (value_is_of : value.IsOf text isCurrent) (reads : ReadsBy text isCurrent (EntriesAreOf text isCurrent) rest) :
    ReadsBy text isCurrent (EntriesAreOf text isCurrent) (do return (key, value) :: (← rest)) :=
  reads.bind fun _ are_of => .pure (List.forall_mem_cons.mpr ⟨⟨key_is_of, value_is_of⟩, are_of⟩)

/-- No items are items of every text. -/
theorem nil_reads : ReadsBy text isCurrent (ItemsAreOf text isCurrent) (Pure.pure []) := .pure (by simp [ItemsAreOf])

/-- No entries are entries of every text. -/
theorem nil_entries_reads : ReadsBy text isCurrent (EntriesAreOf text isCurrent) (Pure.pure []) :=
  .pure (by simp [EntriesAreOf])

/-- The items of a block sequence. -/
theorem ReadersAt.next_blockItems (readers : ReadersAt text isCurrent fuel) (opened : Mark) :
    ReadsBy text isCurrent (ItemsAreOf text isCurrent) (readBlockItems (fuel + 1) opened) := by
  rw [readBlockItems]
  refine take_reads.bind fun token is_of => ?_
  -- Another item, the end of the sequence, or something that does not belong there.
  split
  · refine peek_reads.bind fun next _ => readers.optional is_of.stop _ fun item item_is_of => ?_
    exact cons_reads item_is_of (readers.blockItems opened)
  · exact nil_reads
  · exact .throw (problemWhile_isOf is_of.start)

/-- The items of a sequence without an indentation of its own. -/
theorem ReadersAt.next_indentlessItems (readers : ReadersAt text isCurrent fuel) :
    ReadsBy text isCurrent (ItemsAreOf text isCurrent) (readIndentlessItems (fuel + 1)) := by
  -- Behind a dash stands an item, and an empty one is placed at the end of the dash.
  rw [readIndentlessItems]
  refine peek_reads.bind fun token is_of => ?_
  refine .ite (fun _ => take_reads.bind fun _ _ => peek_reads.bind fun next _ => ?_) fun _ => nil_reads
  exact readers.optional is_of.stop _ fun item item_is_of => cons_reads item_is_of readers.indentlessItems

/-- The entries of a block mapping. -/
theorem ReadersAt.next_blockEntries (readers : ReadersAt text isCurrent fuel) (opened : Mark) :
    ReadsBy text isCurrent (EntriesAreOf text isCurrent) (readBlockEntries (fuel + 1) opened) := by
  rw [readBlockEntries]
  refine peek_reads.bind fun token is_of => ?_
  split
  · refine take_reads.bind fun _ _ => peek_reads.bind fun next _ => ?_
    refine readers.optional is_of.stop _ fun key key_is_of => ?_
    refine readers.blockValue.bind fun value value_is_of => ?_
    exact cons_entry_reads key_is_of value_is_of (readers.blockEntries opened)
  · -- A value without a key in front of it has an empty one.
    refine .get_bind fun p _ _ => .ite (fun _ => ?_) fun _ => .throw (problemWhile_isOf is_of.start)
    refine (emptyScalar_reads is_of.start).bind fun key key_is_of => ?_
    refine readers.blockValue.bind fun value value_is_of => ?_
    exact cons_entry_reads key_is_of value_is_of (readers.blockEntries opened)
  · exact take_reads.bind fun _ _ => nil_entries_reads
  · exact .throw (problemWhile_isOf is_of.start)

/-- The value of an entry of a block mapping. -/
theorem ReadersAt.next_blockValue (readers : ReadersAt text isCurrent fuel) :
    ReadsBy text isCurrent (·.IsOf text isCurrent) (readBlockValue (fuel + 1)) := by
  rw [readBlockValue]
  refine peek_reads.bind fun token is_of => ?_
  -- Behind a colon comes a node that may be left out. Without the colon there is no value.
  split
  · refine take_reads.bind fun _ _ => peek_reads.bind fun next next_is_of => ?_
    refine .ite (fun _ => emptyScalar_reads ?_) fun _ => readers.node _
    split
    · exact is_of.stop
    · exact next_is_of.stop
  · exact emptyScalar_reads is_of.start

/-- What is read behind the comma that separates it from the part before, unless it is the first. -/
theorem separated_reads {isFirst : Bool} {isComma : Prop} [Decidable isComma] {failure : ReadError}
    {holds : α → Prop} {later : Parse α} (belongs : failure.IsOf text (Breakdown.StandsIn text))
    (reads : ReadsBy text isCurrent holds later) :
    ReadsBy text isCurrent holds
      (if !isFirst then
        if isComma then (do let _ ← take; later)
        else (do throw failure; later)
      else later) :=
  .ite (fun _ => .ite (fun _ => take_reads.bind fun _ _ => reads) fun _ => .throw_bind belongs) fun _ => reads

/-- The items of a flow sequence. -/
theorem ReadersAt.next_flowItems (readers : ReadersAt text isCurrent fuel) (opened : Mark) (isFirst : Bool) :
    ReadsBy text isCurrent (ItemsAreOf text isCurrent) (readFlowItems (fuel + 1) opened isFirst) := by
  -- A bracket ends the items, and a question mark starts a pair among them.
  rw [readFlowItems]
  refine peek_reads.bind fun token is_of => .ite (fun _ => take_reads.bind fun _ _ => nil_reads) fun _ => ?_
  refine separated_reads (problemWhile_isOf is_of.start) (peek_reads.bind fun token is_of => ?_)
  split
  · exact readers.flowPair.bind fun item item_is_of => cons_reads item_is_of (readers.flowItems opened false)
  · exact take_reads.bind fun _ _ => nil_reads
  · exact (readers.node _).bind fun item item_is_of => cons_reads item_is_of (readers.flowItems opened false)

/-- A single entry among the items of a flow sequence. -/
theorem ReadersAt.next_flowPair (readers : ReadersAt text isCurrent fuel) :
    ReadsBy text isCurrent (·.IsOf text isCurrent) (readFlowPair (fuel + 1)) := by
  rw [readFlowPair]
  refine take_reads.bind fun mark is_of => peek_reads.bind fun next _ => ?_
  refine readers.optional is_of.stop _ fun key key_is_of => peek_reads.bind fun token token_is_of => ?_
  -- The pair is a mapping of its own, whether it has a value or not.
  have made : ∀ value : Node, value.IsOf text isCurrent →
      ReadsBy text isCurrent (·.IsOf text isCurrent)
        (Pure.pure (Node.mapping (.core .map) [(key, value)] mark.start)) :=
    fun value value_is_of =>
      .pure (.mapping is_of.start (by simpa using key_is_of) (by simpa using value_is_of))
  dsimp only
  split
  · refine take_reads.bind fun _ _ => peek_reads.bind fun next _ => ?_
    exact readers.optional token_is_of.stop _ made
  · exact (emptyScalar_reads token_is_of.start).bind made

/-- The value of an entry of a flow mapping. -/
theorem ReadersAt.next_flowValue (readers : ReadersAt text isCurrent fuel) :
    ReadsBy text isCurrent (·.IsOf text isCurrent) (readFlowValue (fuel + 1)) := by
  -- A value that is left out is an empty scalar, placed at a token either way.
  rw [readFlowValue]
  refine peek_reads.bind fun token is_of => ?_
  split
  · refine take_reads.bind fun _ _ => peek_reads.bind fun next _ => ?_
    exact .ite (fun _ => emptyScalar_reads is_of.stop) fun _ => readers.node _
  · exact emptyScalar_reads is_of.start

/-- The entries of a flow mapping. -/
theorem ReadersAt.next_flowEntries (readers : ReadersAt text isCurrent fuel) (opened : Mark) (isFirst : Bool) :
    ReadsBy text isCurrent (EntriesAreOf text isCurrent) (readFlowEntries (fuel + 1) opened isFirst) := by
  -- The value and the other entries do not depend on how the key was given.
  have valued : ∀ key : Node, key.IsOf text isCurrent → ReadsBy text isCurrent (EntriesAreOf text isCurrent) (do
      let value ← readFlowValue fuel
      return (key, value) :: (← readFlowEntries fuel opened false)) := fun key key_is_of =>
    readers.flowValue.bind fun value value_is_of =>
      cons_entry_reads key_is_of value_is_of (readers.flowEntries opened false)
  rw [readFlowEntries]
  refine peek_reads.bind fun token is_of => .ite (fun _ => take_reads.bind fun _ _ => nil_entries_reads) fun _ => ?_
  refine separated_reads (problemWhile_isOf is_of.start) (peek_reads.bind fun token is_of => ?_)
  split
  · refine take_reads.bind fun _ _ => peek_reads.bind fun next _ => ?_
    exact readers.optional is_of.stop _ valued
  · exact take_reads.bind fun _ _ => nil_entries_reads
  · refine .get_bind fun p _ _ => .ite (fun _ => (emptyScalar_reads is_of.stop).bind valued) fun _ => ?_
    refine (readers.node _).bind fun key key_is_of => peek_reads.bind fun token is_of => ?_
    refine (emptyScalar_reads is_of.start).bind fun value value_is_of => ?_
    exact cons_entry_reads key_is_of value_is_of (readers.flowEntries opened false)

/-- A sequence, whose items are read while its anchor names what is not complete yet. -/
theorem sequence_reads {properties : Properties} {place : NodePlace} {given : Option Tag} {start : Mark}
    {items : Parse (List Node)} (named : ∀ tag ∈ given, tag.IsNamedIn text) (start_place : start.IsPlaceOf text)
    (reads : ReadsBy text isCurrent (ItemsAreOf text isCurrent) items) :
    ReadsBy text isCurrent (·.IsOf text isCurrent) (do
      openCollection properties place .sequence start
      complete properties.anchor (.sequence (given.getD (.core .seq)) (← items) start)) := by
  -- While the items are read, an alias of the sequence names a node that only has its start.
  have opened : (Node.enclosing place.isDocument .sequence start).IsOf text isCurrent := .enclosing start_place
  refine (bindAnchor_reads opened).bind fun _ _ => reads.bind fun items are_of => ?_
  refine complete_reads (.sequence start_place (fun ordered => ?_) are_of)
  -- The tag that a sequence has by itself is not that of an ordered map.
  cases given with
  | none => simp at ordered
  | some tag => exact named tag rfl

/-- A mapping in the same way. -/
theorem mapping_reads {properties : Properties} {place : NodePlace} {tag : Option Tag} {start : Mark}
    {entries : Parse (List (Node × Node))} (start_place : start.IsPlaceOf text)
    (reads : ReadsBy text isCurrent (EntriesAreOf text isCurrent) entries) :
    ReadsBy text isCurrent (·.IsOf text isCurrent) (do
      openCollection properties place .mapping start
      complete properties.anchor (.mapping (tag.getD (.core .map)) (← entries) start)) := by
  -- The anchor is bound before the entries are read, so that they can refer to it.
  have opened : (Node.enclosing place.isDocument .mapping start).IsOf text isCurrent := .enclosing start_place
  refine (bindAnchor_reads opened).bind fun _ _ => reads.bind fun entries are_of => ?_
  exact complete_reads (.mapping start_place (fun entry member => (are_of entry member).1)
    fun entry member => (are_of entry member).2)

/-- A node with its properties, or an alias. -/
theorem ReadersAt.next_node (readers : ReadersAt text isCurrent fuel) (place : NodePlace) :
    ReadsBy text isCurrent (·.IsOf text isCurrent) (readNode (fuel + 1) place) := by
  rw [readNode]
  refine peek_reads.bind fun first first_is_of => ?_
  split
  · exact take_reads.bind fun _ _ => aliased_reads first_is_of.start
  · refine readProperties_reads.bind fun properties props => peek_reads.bind fun token is_of => ?_
    have start_place : (properties.start.getD token.start).IsPlaceOf text := by
      cases given : properties.start with
      | none => exact is_of.start
      | some mark => exact props.start mark given
    dsimp only
    generalize properties.start.getD token.start = start at start_place ⊢
    refine (givenTag_reads props start_place).bind fun tag given => ?_
    -- One case for each kind of token that opens a node; the last is that of all the others.
    split
    · exact sequence_reads given start_place readers.indentlessItems
    · rename_i style word scalar
      refine take_reads.bind fun _ _ => scalarNode_reads props given (fun plain => ?_) start_place
      subst plain
      exact is_of.of_kind scalar
    · exact sequence_reads given start_place (take_reads.bind fun _ _ => readers.flowItems _ _)
    · exact mapping_reads start_place (take_reads.bind fun _ _ => readers.flowEntries _ _)
    · exact sequence_reads given start_place (take_reads.bind fun _ _ => readers.blockItems _)
    · exact mapping_reads start_place (take_reads.bind fun _ _ => readers.blockEntries _)
    · refine .ite (fun _ => scalarNode_reads props given (by simp) start_place) fun _ => .throw ?_
      exact problemWhile_isOf is_of.start

/-- The readers, whatever fuel they have. -/
theorem readersAt (text : List Char) (isCurrent : Bool) (fuel : Nat) : ReadersAt text isCurrent fuel := by
  induction fuel with
  | zero => exact readersAt_zero
  | succ fuel readers =>
    -- Each reader calls the others with one unit of fuel less.
    exact ⟨readers.next_node, readers.next_blockItems, readers.next_indentlessItems, readers.next_blockEntries,
      readers.next_blockValue, readers.next_flowItems, readers.next_flowPair, readers.next_flowEntries,
      readers.next_flowValue⟩

/-- A whole node. -/
theorem readWholeNode_reads (place : NodePlace) :
    ReadsBy text isCurrent (·.IsOf text isCurrent) (readWholeNode place) :=
  .get_bind fun _ _ _ => (readersAt text isCurrent _).node place

/-- The directives in front of a document. -/
theorem readDirectives_reads {version : Option (Nat × Nat)} {handles : Handles}
    (versions : ∀ named ∈ version, IsVersionIn text named) (given : ∀ handle ∈ handles, IsHandleIn text handle) :
    Reads text known
      (fun read => (∀ named ∈ read.1, IsVersionIn text named) ∧ ∀ handle ∈ read.2, IsHandleIn text handle)
      (readDirectives fuel version handles) := by
  -- Induction on the fuel, a directive in each step.
  induction fuel generalizing version handles with
  | zero => exact .pure ⟨versions, given⟩
  | succ fuel ih =>
    rw [readDirectives]
    refine peek_reads.bind fun token is_in => ?_
    split
    · rename_i directive named
      refine take_reads.bind fun _ _ => ?_
      have place := is_in.start
      split
      · rename_i major minor
        have written : HoldsVersion text major minor := is_in.of_kind named
        refine .ite (fun _ => .throw_bind (problemAt_isOf place)) fun _ => ?_
        refine .ite (fun _ => .throw_bind (problemAt_isOf place)) fun first => ih (fun found same => ?_) given
        rw [← Option.some.inj same]
        exact ⟨by simpa using first, written, token, is_in, named⟩
      · rename_i name start
        have handle : IsHandleIn text (name, start) := .inr ⟨token, is_in, named⟩
        exact .ite (fun _ => .throw_bind (problemAt_isOf place)) fun _ =>
          ih versions (List.forall_mem_cons.mpr ⟨handle, given⟩)
      · exact ih versions given
    · exact .pure ⟨versions, given⟩

/-- The markers at the ends of documents. -/
theorem skipEnds_reads : Reads text known (fun _ => True) (skipEnds fuel) := by
  -- Induction on the fuel, a marker in each step.
  induction fuel with
  | zero => exact .pure trivial
  | succ fuel ih =>
    rw [skipEnds]
    exact peek_reads.bind fun token _ => .ite (fun _ => take_reads.bind fun _ _ => ih) fun _ => .pure trivial

/-- A parser of a text still is one with what the directives of a document give. -/
theorem IsOf.withDirectives {p : Parser} {version : Option (Nat × Nat)} {handles : Handles} (is_of : p.IsOf text)
    (versions : ∀ named ∈ version, IsVersionIn text named) (given : ∀ handle ∈ handles, IsHandleIn text handle) :
    Parser.IsOf text { p with version := version.getD p.version, handles := handles ++ defaultHandles } := by
  refine ⟨is_of.tokens, is_of.failure, List.forall_mem_append.mpr ⟨given, fun _ => .inl⟩, ?_⟩
  -- The version only becomes another one where a directive names it.
  cases version with
  | none => exact is_of.version
  | some named => exact .inr (versions named rfl)

variable {version : Nat × Nat} {anchors : List (List Char × Node)}

/-- The marker that starts a document. The version of the parser only changes where there is one. -/
theorem readDocumentStart_runs :
    Runs text (fun p => p.version = version ∧ p.anchors = anchors)
      (fun found p => p.anchors = anchors ∧ (found = none → p.version = version) ∧ ∀ token ∈ found, token.IsIn text)
      readDocumentStart := by
  have ends : ∀ count, Reads text (fun v a => v = version ∧ a = anchors) (fun _ => True) (skipEnds count) :=
    fun _ => skipEnds_reads
  have looked : Reads text (fun v a => v = version ∧ a = anchors) (·.IsIn text) peek := peek_reads
  unfold readDocumentStart
  refine .get_bind fun p => .bind (ends _) fun _ => .bind (looked.mono (fun _ knows => knows.2) fun _ _ => id) ?_
  intro token
  split
  · exact .pure fun q knows => ⟨knows.2.2, fun _ => knows.2.1, by simp⟩
  · -- From here on there is a marker to be read, and the version may become another one.
    refine Runs.mono (show Reads text (fun _ a => a = anchors)
      (fun found => ∃ token : Token, token.IsIn text ∧ found = some token) _ from ?_) (fun _ knows => knows.2.2) ?_
    · refine .get_bind fun _ _ _ => (readDirectives_reads (by simp) (by simp)).bind fun read given => ?_
      refine (Reads.modify fun q is_of knows => ?_).bind fun _ _ => peek_reads.bind fun token is_in => ?_
      · exact ⟨is_of.withDirectives given.1 given.2, knows⟩
      · refine .ite (fun _ => .throw_bind (problemAt_isOf is_in.start)) fun _ => ?_
        exact take_reads.bind fun _ _ => .pure ⟨token, is_in, rfl⟩
    · rintro found q ⟨⟨token, is_in, rfl⟩, same⟩
      exact ⟨same, by simp, by simpa using is_in⟩

/-- What is read of a document are nodes of the text by the rules of the version that the parser then has. -/
def DocumentIsOf (text : List Char) (root : Option Node) (p : Parser) : Prop :=
  ∀ node ∈ root, node.IsOf text (p.version == currentVersion)

/-- A parser without anchors reads the nodes of a document by the rules of its own version. -/
theorem document_runs {reader : Parse (Option Node)}
    (reads : ∀ isCurrent, ReadsBy text isCurrent (fun root => ∀ node ∈ root, node.IsOf text isCurrent)
      reader) :
    Runs text (fun p => p.anchors = []) (DocumentIsOf text) reader := by
  -- Reading nodes does not change whether the version is the current one.
  intro p is_of fresh
  refine (reads (p.version == currentVersion) p is_of ⟨rfl, by simp [fresh]⟩).mono fun read held => ?_
  obtain ⟨parser, nodes, same, -⟩ := held
  exact ⟨parser, fun node member => same ▸ nodes node member⟩

/-- The first document of a text. -/
theorem readDocument_runs : Runs text (fun p => p.anchors = []) (DocumentIsOf text) readDocument := by
  have whole : ∀ isCurrent, ReadsBy text isCurrent (fun root => ∀ node ∈ root, node.IsOf text isCurrent)
      (do return some (← readWholeNode documentPlace)) := fun _ =>
    (readWholeNode_reads _).bind fun node is_of => .pure (by simpa using is_of)
  have looked : Reads text (fun _ anchors => anchors = []) (·.IsIn text) peek := peek_reads
  have opened : Runs text (fun p => p.anchors = []) (fun _ p => p.anchors = []) readDocumentStart :=
    fun p is_of fresh => (readDocumentStart_runs p is_of ⟨rfl, fresh⟩).mono fun _ held => ⟨held.1, held.2.1⟩
  unfold readDocument
  refine .bind (looked.mono (fun _ => id) fun _ _ knows => knows.2) fun token => ?_
  split
  case h_4 => exact document_runs whole
  -- Directives, the marker of a start and the end of the text are all taken for a document that is marked.
  all_goals
    refine .bind opened fun started => ?_
    split
    · exact .pure fun _ _ => by simp [DocumentIsOf]
    · refine document_runs fun isCurrent => ?_
      refine peek_reads.bind fun next is_in => .ite (fun _ => ?_) fun _ => whole isCurrent
      exact (emptyScalar_reads is_in.start).bind fun node is_of => .pure (by simpa using is_of)

/-- The end of a document. -/
theorem readDocumentEnd_reads : Reads text known (fun _ => True) readDocumentEnd := by
  unfold readDocumentEnd
  -- What follows the marker on its line is reported where it starts.
  refine peek_reads.bind fun token _ => .ite (fun _ => ?_) fun _ => .pure trivial
  refine take_reads.bind fun _ _ => peek_reads.bind fun next is_in => ?_
  exact .ite (fun _ => .throw_bind (problemAt_isOf is_in.start)) fun _ => .pure trivial

/-- The start of another document. Without one the version is the one that was there. -/
theorem nextDocument_runs {isMarked : Bool} :
    Runs text (fun p => p.version = version)
      (fun found p => (found = none → p.version = version) ∧ ∀ mark ∈ found, mark.IsPlaceOf text)
      (nextDocument isMarked) := by
  -- Another document starts where a marker or a directive stands.
  have started : Runs text (fun p => p.version = version)
      (fun found p => (found = none → p.version = version) ∧ ∀ mark ∈ found, mark.IsPlaceOf text)
      (do return (← readDocumentStart).map (·.start)) := by
    intro p is_of same
    refine (readDocumentStart_runs p is_of ⟨same, rfl⟩).bind fun read held => ?_
    obtain ⟨parser, -, kept, is_in⟩ := held
    refine ⟨parser, fun none => kept (Option.map_eq_none_iff.mp none), fun mark found => ?_⟩
    obtain ⟨token, there, rfl⟩ := Option.map_eq_some_iff.mp found
    exact (is_in token there).start
  have looked : Reads text (fun v _ => v = version) (·.IsIn text) peek := peek_reads
  unfold nextDocument
  refine .bind looked fun token => .get_bind fun p => ?_
  dsimp only
  -- The look at the next token changes nothing.
  split
  case h_5 => exact .pure fun q knows => ⟨by simp, by simpa using knows.1.start⟩
  all_goals exact started.mono (fun _ knows => knows.2) fun _ _ => id

/-- The only document of a text. -/
theorem readOnlyDocument_runs : Runs text (fun p => p.anchors = []) (DocumentIsOf text) readOnlyDocument := by
  unfold readOnlyDocument
  refine .bind readDocument_runs fun root => ?_
  split
  · exact .pure fun _ _ => by simp [DocumentIsOf]
  · rename_i node
    -- What was read is known by the version of the parser, which only another document would change.
    intro p is_of nodes
    have ended : Reads text (fun v _ => v = p.version) (fun _ => True) readDocumentEnd := readDocumentEnd_reads
    refine Runs.bind ended (fun isMarked => ?_) p is_of rfl
    refine Runs.mono (?_ : Runs text (fun q => q.version = p.version) (DocumentIsOf text) _) (fun _ knows => knows.2)
      fun _ _ => id
    refine .bind nextDocument_runs fun found => ?_
    split
    · refine .pure fun q knows => ?_
      rw [DocumentIsOf, knows.1 rfl]
      exact nodes
    · rename_i mark
      exact fun q _ knows => problemWhile_isOf (knows.2 mark rfl)

end Parser

/-- The document that the tokens of a text make up. -/
theorem parseTokens_gives (text : List Char) :
    Gives text (Breakdown.StandsIn text) (fun document => ∀ node ∈ document.node, node.IsOf text document.isCurrent)
      (parseTokens (tokensOf text)) := by
  -- At first the parser has the handles and the version that every text has.
  have fresh :
      Parser.IsOf text ⟨(tokensOf text).tokens, (tokensOf text).failure, defaultHandles, currentVersion, []⟩ :=
    ⟨fun _ member => member, rfl, fun _ => .inl, .inl rfl⟩
  exact (Parser.readOnlyDocument_runs _ fresh rfl).bind fun _ held => held.2

end PlanLint
