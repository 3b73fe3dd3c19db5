import Mathlib.Data.List.Forall2
import PlanLint.Proofs.Yaml.Token.EntryLine
import PlanLint.Yaml.Node.Parser

/-! The node of a text whose lines are entries. -/

namespace PlanLint

variable {α β : Type} {p q : Parser} {token : Token} {rest : List Token}

/-- One reader after another. -/
theorem bind_eq_of_eq {first : Parse α} {a : α} (run : first p = .ok (a, q)) (next : α → Parse β) :
    (first >>= next) p = next a q := by
  -- The first reader gives its result and its state to the second.
  simp only [Bind.bind, StateT.bind, Except.bind, run]

/-- A look at the parser leaves it as it is. -/
theorem get_eq (p : Parser) : (get : Parse Parser) p = .ok (p, p) := rfl

/-- The parser behind its first tokens. -/
def Parser.behind (p : Parser) (rest : List Token) : Parser := { p with tokens := rest }

namespace Parser

/-- The token in front is looked at. -/
theorem peek_eq (front : p.tokens = token :: rest) : Parser.peek p = .ok (token, p) := by
  -- Some token is in front, so the reader does not see the end of the stream.
  unfold Parser.peek
  rw [bind_eq_of_eq (get_eq p), front]
  rfl

/-- The token in front is taken. -/
theorem take_eq (front : p.tokens = token :: rest) : Parser.take p = .ok (token, p.behind rest) := by
  -- Taking is looking and dropping.
  unfold Parser.take
  rw [bind_eq_of_eq (peek_eq front)]
  show Except.ok (token, { p with tokens := p.tokens.drop 1 }) = _
  rw [front]
  rfl

/-- Neither an anchor nor a tag. -/
def isBare : TokenKind → Bool
  | .anchor _ => false
  | .tag _ => false
  | .alias _ => false
  | _ => true

/-- In front of a bare token there are no properties. -/
theorem readProperties_eq (front : p.tokens = token :: rest) (bare : isBare token.kind = true) :
    readProperties p = .ok (⟨none, none, none, none⟩, p) := by
  unfold readProperties
  rw [bind_eq_of_eq (peek_eq front)]
  -- Only an anchor or a tag is taken for a property.
  cases kind : token.kind with
  | anchor name => simp [kind, isBare] at bare
  | tag name => simp [kind, isBare] at bare
  | _ => rfl

/-- The tag that a scalar has by its style and text. -/
def scalarTag (style : ScalarStyle) (text : List Char) : Tag :=
  if style == .plain then .ofPlain false text else .core .str

/-- The tag of a plain scalar by the rules of the current version. -/
theorem plainTag_eq (current : p.version = currentVersion) (text : List Char) :
    plainTag text p = .ok (.ofPlain false text, p) := by
  -- Only the first version has other rules.
  unfold plainTag
  rw [bind_eq_of_eq (get_eq p)]
  simp only [current, beq_self_eq_true, Bool.true_or, if_true]
  rfl

/-- A scalar without properties is complete with its tag. -/
theorem scalarNode_eq (current : p.version = currentVersion) (style : ScalarStyle) (text : List Char)
    (start : Mark) :
    scalarNode ⟨none, none, none, none⟩ none style text start p =
      .ok (.scalar (scalarTag style text) style text false start, p) := by
  unfold scalarNode
  -- The text decides on the tag of a plain scalar, and any other one is a text.
  by_cases plain : style = .plain
  · subst plain
    exact bind_eq_of_eq (plainTag_eq current text) _
  · have other : (style == .plain) = false := by simpa using plain
    simp only [Option.any_none, other, Bool.or_false, Bool.false_eq_true, if_false, scalarTag]
    rfl

/-- A scalar without properties is a node. -/
theorem readNode_scalar (fuel : Nat) (place : NodePlace) {style : ScalarStyle} {text : List Char}
    (front : p.tokens = token :: rest) (kind : token.kind = .scalar style text)
    (current : p.version = currentVersion) :
    readNode (fuel + 1) place p =
      .ok (.scalar (scalarTag style text) style text false token.start, p.behind rest) := by
  have bare : isBare token.kind = true := by rw [kind]; rfl
  -- The token is neither an alias nor a property, so the scalar is read at once.
  rw [readNode, bind_eq_of_eq (peek_eq front)]
  simp only [kind]
  rw [bind_eq_of_eq (readProperties_eq front bare), bind_eq_of_eq (peek_eq front)]
  simp only [kind]
  have noTag : givenTag ⟨none, none, none, none⟩ token.start p = .ok (none, p) := rfl
  simp only [Option.getD_none]
  rw [bind_eq_of_eq noTag, bind_eq_of_eq (take_eq front)]
  exact scalarNode_eq (p := p.behind rest) current style text token.start

/-- The node pairs that tokens of entries stand for. -/
def PairsOf (e : EntryLine) (pair : Node × Node) : Prop :=
  (∃ start, pair.1 = .scalar (.ofPlain false e.key) .plain e.key false start) ∧
    ∃ start, pair.2 = .scalar (scalarTag e.style.scalar e.value) e.style.scalar e.value false start

/-- The colon of an entry and a scalar behind it are read as the value. -/
theorem readBlockValue_eq {colon : Token} (fuel : Nat) {style : ScalarStyle} {text : List Char}
    (front : p.tokens = colon :: token :: rest) (isColon : colon.kind = .value false)
    (kind : token.kind = .scalar style text) (current : p.version = currentVersion) :
    readBlockValue (fuel + 2) p =
      .ok (.scalar (scalarTag style text) style text false token.start, p.behind rest) := by
  -- Behind the colon no other key or colon stands, so the value is there.
  have next : (p.behind (token :: rest)).tokens = token :: rest := rfl
  rw [readBlockValue, bind_eq_of_eq (peek_eq front)]
  simp only [isColon]
  rw [bind_eq_of_eq (take_eq front), bind_eq_of_eq (peek_eq next)]
  simp only [kind, startsEntry, Bool.false_eq_true, if_false]
  exact readNode_scalar fuel entryPlace next kind current

/-- The tokens of an entry are read as its key and its value, and what is behind them as the other entries. -/
theorem readBlockEntries_cons {e : EntryLine} {key name colon value : Token} (fuel : Nat) (opened : Mark)
    (front : p.tokens = key :: name :: colon :: value :: rest)
    (kinds : [key.kind, name.kind, colon.kind, value.kind] = e.kinds) (current : p.version = currentVersion) :
    ∃ pair, PairsOf e pair ∧ readBlockEntries (fuel + 3) opened p =
      ((do return pair :: (← readBlockEntries (fuel + 2) opened)) : Parse _) (p.behind rest) := by
  simp only [EntryLine.kinds, List.cons.injEq, and_true] at kinds
  obtain ⟨isKey, isName, isColon, isValue⟩ := kinds
  have named : (p.behind (name :: colon :: value :: rest)).tokens = name :: colon :: value :: rest := rfl
  -- What the key and the value are read as; the tokens between them are taken for what they mean.
  have keyRead := readNode_scalar (fuel + 1) entryPlace named isName current
  have valueRead := readBlockValue_eq (p := p.behind (colon :: value :: rest)) fuel rfl isColon isValue current
  refine ⟨(_, _), ⟨⟨name.start, rfl⟩, value.start, rfl⟩, ?_⟩
  rw [readBlockEntries, bind_eq_of_eq (peek_eq front)]
  simp only [isKey]
  rw [bind_eq_of_eq (take_eq front), bind_eq_of_eq (peek_eq named)]
  simp only [isName, startsEntry, Bool.false_eq_true, if_false]
  rw [bind_eq_of_eq keyRead]
  exact bind_eq_of_eq valueRead _

/-- The tokens of entries are read up to the end of the mapping. -/
theorem readBlockEntries_eq (opened : Mark) {entries : List EntryLine} {tokens : List Token} {last : Token}
    (front : p.tokens = tokens ++ last :: rest) (kinds : tokens.map (·.kind) = entries.flatMap EntryLine.kinds)
    (isEnd : last.kind = .blockEnd) (current : p.version = currentVersion) (fuel : Nat) :
    ∃ pairs, List.Forall₂ PairsOf entries pairs ∧
      readBlockEntries (entries.length + (fuel + 2)) opened p = .ok (pairs, p.behind rest) := by
  -- Induction on the entries, each of which takes four tokens and a unit of fuel.
  induction entries generalizing p tokens with
  | nil =>
    obtain rfl : tokens = [] := by simpa using kinds
    refine ⟨[], .nil, ?_⟩
    rw [show [].length + (fuel + 2) = fuel + 1 + 1 by simp, readBlockEntries, bind_eq_of_eq (peek_eq front)]
    simp only [isEnd]
    exact bind_eq_of_eq (take_eq front) _
  | cons e entries ih =>
    rw [List.flatMap_cons, List.map_eq_append_iff] at kinds
    obtain ⟨own, more, rfl, ownKinds, moreKinds⟩ := kinds
    obtain ⟨key, name, colon, value, rfl⟩ : ∃ key name colon value, own = [key, name, colon, value] := by
      have size : own.length = 4 := by simpa [EntryLine.kinds] using congrArg List.length ownKinds
      obtain ⟨key, behind, rfl⟩ := List.exists_cons_of_length_eq_add_one size
      obtain ⟨name, colon, value, rfl⟩ := List.length_eq_three.mp (Nat.succ.inj size)
      exact ⟨key, name, colon, value, rfl⟩
    have front' : p.tokens = key :: name :: colon :: value :: (more ++ last :: rest) := by simpa using front
    obtain ⟨pair, isPair, step⟩ := readBlockEntries_cons (entries.length + fuel) opened front' ownKinds current
    obtain ⟨pairs, arePairs, read⟩ := ih (p := p.behind (more ++ last :: rest)) rfl moreKinds current
    refine ⟨pair :: pairs, .cons isPair arePairs, ?_⟩
    have size : (e :: entries).length + (fuel + 2) = entries.length + fuel + 3 := by
      simp only [List.length_cons]
      omega
    rw [size, step]
    exact bind_eq_of_eq read _

/-- The node of a mapping without properties. -/
theorem readNode_mapping {opening : Token} {entries : List EntryLine} {tokens : List Token} {last : Token}
    (front : p.tokens = opening :: (tokens ++ last :: rest)) (isOpening : opening.kind = .blockMappingStart)
    (kinds : tokens.map (·.kind) = entries.flatMap EntryLine.kinds) (isEnd : last.kind = .blockEnd)
    (current : p.version = currentVersion) (fuel : Nat) :
    ∃ pairs, List.Forall₂ PairsOf entries pairs ∧ readNode (entries.length + (fuel + 3)) documentPlace p =
      .ok (.mapping (.core .map) pairs opening.start, p.behind rest) := by
  have bare : isBare opening.kind = true := by rw [isOpening]; rfl
  obtain ⟨pairs, arePairs, read⟩ :=
    readBlockEntries_eq (p := p.behind (tokens ++ last :: rest)) opening.start rfl kinds
    isEnd current fuel
  refine ⟨pairs, arePairs, ?_⟩
  have noTag : givenTag ⟨none, none, none, none⟩ opening.start p = .ok (none, p) := rfl
  rw [show entries.length + (fuel + 3) = entries.length + (fuel + 2) + 1 by omega, readNode,
    bind_eq_of_eq (peek_eq front)]
  simp only [isOpening]
  rw [bind_eq_of_eq (readProperties_eq front bare), bind_eq_of_eq (peek_eq front)]
  simp only [isOpening, Option.getD_none, documentPlace]
  rw [bind_eq_of_eq noTag]
  -- Behind its first token the mapping is read entry by entry, up to the token that ends it.
  have inner : (do let _ ← take; readBlockEntries (entries.length + (fuel + 2)) opening.start : Parse _) p =
      .ok (pairs, p.behind rest) := by
    rw [bind_eq_of_eq (take_eq front)]
    exact read
  have unbound : openCollection ⟨none, none, none, none⟩ documentPlace .mapping opening.start p = .ok ((), p) := rfl
  rw [← documentPlace, bind_eq_of_eq unbound]
  exact bind_eq_of_eq inner _

/-- In front of the end of the stream a document ends without a marker. -/
theorem readDocumentEnd_eq (front : p.tokens = token :: rest) (isEnd : token.kind = .streamEnd) :
    readDocumentEnd p = .ok (false, p) := by
  -- Only a marker would be taken.
  rw [readDocumentEnd, bind_eq_of_eq (peek_eq front), if_neg (by simp [isEnd])]
  rfl

/-- There no other document starts. -/
theorem nextDocument_eq (front : p.tokens = token :: rest) (isEnd : token.kind = .streamEnd) :
    nextDocument false p = .ok (none, p) := by
  -- Neither the marker of an end nor that of a start stands there.
  have noEnds : ∀ count, skipEnds count p = .ok ((), p) := by
    intro count
    cases count with
    | zero => rfl
    | succ count =>
      rw [skipEnds, bind_eq_of_eq (peek_eq front), if_neg (by simp [isEnd])]
      rfl
  have noStart : readDocumentStart p = .ok (none, p) := by
    rw [readDocumentStart, bind_eq_of_eq (get_eq p), bind_eq_of_eq (noEnds _),
      bind_eq_of_eq (peek_eq front), if_pos (by simp [isEnd])]
    rfl
  rw [nextDocument, bind_eq_of_eq (peek_eq front), bind_eq_of_eq (get_eq p)]
  simp only [Bool.false_and]
  rw [bind_eq_of_eq noStart]
  rfl

/-- The tokens of a mapping and the end of the stream are read as a single document. -/
theorem readOnlyDocument_eq {opening last final : Token} {entries : List EntryLine} {tokens : List Token}
    (front : p.tokens = opening :: (tokens ++ last :: [final])) (isOpening : opening.kind = .blockMappingStart)
    (kinds : tokens.map (·.kind) = entries.flatMap EntryLine.kinds) (isEnd : last.kind = .blockEnd)
    (isFinal : final.kind = .streamEnd) (current : p.version = currentVersion) :
    ∃ pairs, List.Forall₂ PairsOf entries pairs ∧
      readOnlyDocument p = .ok (some (.mapping (.core .map) pairs opening.start), p.behind [final]) := by
  -- There is fuel for four units a token, and an entry of four tokens takes one.
  obtain ⟨fuel, enough⟩ : ∃ fuel, 4 * p.tokens.length + 16 = entries.length + (fuel + 3) := by
    have size : tokens.length = 4 * entries.length := by
      have := congrArg List.length kinds
      simpa [EntryLine.kinds, Nat.mul_comm] using this
    refine ⟨4 * p.tokens.length + 13 - entries.length, ?_⟩
    simp only [front, List.length_cons, List.length_append]
    omega
  obtain ⟨pairs, arePairs, node⟩ := readNode_mapping front isOpening kinds isEnd current fuel
  refine ⟨pairs, arePairs, ?_⟩
  have whole : readWholeNode documentPlace p =
      .ok (.mapping (.core .map) pairs opening.start, p.behind [final]) := by
    rw [readWholeNode, bind_eq_of_eq (get_eq p), enough]
    exact node
  -- What opens a mapping is no directive and no marker, so the document starts with it.
  have document : readDocument p = .ok (some (.mapping (.core .map) pairs opening.start), p.behind [final]) := by
    rw [readDocument, bind_eq_of_eq (peek_eq front)]
    simp only [isOpening]
    rw [bind_eq_of_eq whole]
    rfl
  rw [readOnlyDocument, bind_eq_of_eq document]
  dsimp only
  rw [bind_eq_of_eq (readDocumentEnd_eq (p := p.behind [final]) rfl isFinal),
    bind_eq_of_eq (nextDocument_eq (p := p.behind [final]) rfl isFinal)]
  rfl

end Parser

/-- The only document of a text of entries is the mapping of its keys to its values. -/
theorem parseTokens_entryText (ended : Bool) {entries : List EntryLine} (some_entry : entries ≠ []) :
    ∃ pairs start, List.Forall₂ Parser.PairsOf entries pairs ∧
      parseTokens (tokensOf (entryText ended entries)) = .ok ⟨some (.mapping (.core .map) pairs start), true⟩ := by
  obtain ⟨noFailure, kinds⟩ := tokensOf_entryText ended some_entry
  -- The kinds of the tokens say where the mapping starts, where it ends and what is behind it.
  generalize tokensOf (entryText ended entries) = list at noFailure kinds
  obtain ⟨opening, behind, split, isOpening, behindKinds⟩ := List.map_eq_cons_iff.mp kinds
  obtain ⟨tokens, ends, rfl, tokenKinds, endKinds⟩ := List.map_eq_append_iff.mp behindKinds
  obtain ⟨last, final, rfl⟩ : ∃ last final, ends = [last, final] := by
    have size : ends.length = 2 := by simpa using congrArg List.length endKinds
    exact List.length_eq_two.mp size
  obtain ⟨isEnd, isFinal⟩ : last.kind = .blockEnd ∧ final.kind = .streamEnd := by simpa using endKinds
  let p : Parser := ⟨list.tokens, list.failure, defaultHandles, currentVersion, []⟩
  have front : p.tokens = opening :: (tokens ++ last :: [final]) := split
  obtain ⟨pairs, arePairs, read⟩ := Parser.readOnlyDocument_eq front isOpening tokenKinds isEnd isFinal rfl
  refine ⟨pairs, opening.start, arePairs, ?_⟩
  have run : Parser.readOnlyDocument.run p =
      .ok (some (.mapping (.core .map) pairs opening.start), p.behind [final]) := read
  unfold parseTokens
  dsimp only
  rw [run]
  rfl

end PlanLint
