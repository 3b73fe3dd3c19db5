import PlanLint.Proofs.Yaml.Token.Block
import PlanLint.Proofs.Yaml.Token.Name
import PlanLint.Proofs.Yaml.Token.Plain
import PlanLint.Proofs.Yaml.Token.Quoted
import PlanLint.Yaml.Token.Lexer

/-! The tokens of a text stand at its places, and so does whatever keeps it from having more. -/

namespace PlanLint

/-- What a text must hold for a kind of token to come from it. -/
def TokenKind.IsOf (text : List Char) : TokenKind → Prop
  | .directive (.version major minor) => HoldsVersion text major minor
  | .scalar .plain word => word.getLast? ≠ some '\n'
  | _ => True

/-- A token of a text. -/
structure Token.IsOf (text : List Char) (token : Token) : Prop where
  kind : token.kind.IsOf text
  start : token.start.IsPlaceOf text
  stop : token.stop.IsPlaceOf text

/-- A token of a given kind tells what that kind does. -/
theorem Token.IsOf.of_kind {text : List Char} {token : Token} {kind : TokenKind} (is_of : token.IsOf text)
    (same : token.kind = kind) : kind.IsOf text :=
  same ▸ is_of.kind

/-- A lexer of a text that has come to a cursor. -/
structure Lexer.IsAt (text : List Char) (c : Cursor) (l : Lexer) : Prop where
  cursor : l.cursor = c
  stands : c.StandsIn text
  entries : ∀ token ∈ l.entries, token.IsOf text
  pending : ∀ key ∈ l.pending, key.mark.IsPlaceOf text

/-- A lexer of a text, wherever it is. -/
def Lexer.IsOf (text : List Char) (l : Lexer) : Prop := ∃ c, l.IsAt text c

variable {text : List Char} {breaks : Breakdown → Prop} {c : Cursor}

/-- What stands in front of a token of a text. -/
structure Lead.IsOf (text : List Char) (lead : Lead) : Prop where
  comment : ∀ mark ∈ lead.comment, mark.IsPlaceOf text
  cursor : lead.cursor.StandsIn text

/-- The blanks, breaks and comments at a place of a text. -/
theorem leadFrom_isOf {flow crossed : Bool} {fuel : Nat} (stands : c.StandsIn text) :
    (leadFrom flow fuel c crossed).IsOf text := by
  -- Induction on the fuel: each round passes blanks, and then a break.
  induction fuel generalizing c crossed with
  | zero => exact ⟨by simp [leadFrom], stands⟩
  | succ fuel ih =>
    have blanks : (c.skipRun fun char => char == ' ' || (flow && char == '\t')).StandsIn text :=
      stands.skipRun (by cases flow <;> decide)
    rw [leadFrom]
    dsimp only
    generalize c.skipRun (fun char => char == ' ' || (flow && char == '\t')) = c at blanks ⊢
    split
    · exact ⟨by simpa using blanks.isPlace, blanks.skip_line.next_skipRun (by decide)⟩
    · split
      · exact ⟨by simp, blanks⟩
      · rename_i broken
        have behind := blanks.behind_lineBreak broken
        split
        · exact ⟨by simpa using behind.isPlace, behind.skipRun (by decide)⟩
        · exact ih behind

/-- The same without a bound to the number of lines. -/
theorem Cursor.StandsIn.lead {flow : Bool} (stands : c.StandsIn text) : (c.lead flow).IsOf text :=
  leadFrom_isOf stands

/-- The place behind comments. -/
theorem Cursor.StandsIn.skipCommentsFrom {fuel : Nat} (stands : c.StandsIn text) :
    (skipCommentsFrom fuel c).StandsIn text := by
  -- Induction on the fuel: each round skips to where the next comment or token starts.
  induction fuel generalizing c with
  | zero => exact stands
  | succ fuel ih =>
    rw [PlanLint.skipCommentsFrom]
    split
    · exact ih stands.lead.cursor
    · exact stands.lead.cursor

/-- The word at a cursor is made of the characters there. -/
theorem Cursor.ahead_of_isAtWord {word : List Char} (atWord : c.isAtWord word = true) {i : Nat}
    (inside : i < word.length) : c.ahead i ∈ word := by
  -- The word is what the characters start with.
  rw [Cursor.isAtWord, Bool.and_eq_true, List.isPrefixOf_iff_prefix] at atWord
  exact Cursor.ahead_of_prefix atWord.1 inside

namespace Lexer

variable {l : Lexer}

/-- A lexer starts at the start of its text. -/
theorem ofText_isAt (text : List Char) : (ofText text).IsAt text (.ofText text) :=
  ⟨rfl, .start, by simp [ofText], by simp [ofText]⟩

/-- One more token behind the others. -/
theorem IsAt.push {start stop : Mark} {after : Cursor} (is_at : l.IsAt text c) (kind : TokenKind)
    (plain : kind.IsOf text) (first : start.IsPlaceOf text) (last : stop.IsPlaceOf text)
    (behind : after.StandsIn text) :
    (l.push kind start stop after).IsAt text after :=
  ⟨rfl, behind, List.forall_mem_cons.mpr ⟨⟨plain, first, last⟩, is_at.entries⟩, is_at.pending⟩

/-- A token of some characters, none of which breaks a line. -/
theorem IsAt.pushWidth {width : Nat} (is_at : l.IsAt text c) (kind : TokenKind) (plain : kind.IsOf text)
    (others : ∀ i < width, c.ahead i ≠ '\r') : (l.pushWidth kind width).IsAt text (c.skip width) := by
  -- The token ends behind its characters, which is in the text if no carriage return is stepped over.
  obtain rfl := is_at.cursor
  have behind := is_at.stands.skip others
  exact is_at.push kind plain is_at.stands.isPlace behind.isPlace behind

/-- A token without characters. -/
theorem IsAt.pushEmpty (is_at : l.IsAt text c) (kind : TokenKind) (plain : kind.IsOf text) :
    (l.pushEmpty kind).IsAt text c := by
  -- The token starts and ends at the cursor.
  obtain rfl := is_at.cursor
  exact is_at.push kind plain is_at.stands.isPlace is_at.stands.isPlace is_at.stands

/-- A token without characters in front of others. -/
theorem IsAt.insertEmpty {mark : Mark} (is_at : l.IsAt text c) (kind : TokenKind) (number : Nat)
    (plain : kind.IsOf text) (place : mark.IsPlaceOf text) : (l.insertEmpty kind number mark).IsAt text c := by
  -- The entries are those before the place, the new one and those behind it.
  refine ⟨is_at.cursor, is_at.stands, fun token member => ?_, is_at.pending⟩
  rcases List.mem_append.mp member with before | here
  · exact is_at.entries token (List.mem_of_mem_take before)
  · rcases List.mem_cons.mp here with rfl | after
    · exact ⟨plain, place, place⟩
    · exact is_at.entries token (List.mem_of_mem_drop after)

/-- Keys are given up where the cursor is. -/
theorem IsAt.dropKeys {isDropped : PendingKey → Bool} (is_at : l.IsAt text c) :
    Gives text breaks (·.IsAt text c) (l.dropKeys isDropped) := by
  -- A key that has to be there is a problem at the cursor, and the others stay where they are.
  unfold Lexer.dropKeys
  split
  · obtain rfl := is_at.cursor
    exact problemWhile_isOf is_at.stands.isPlace
  · exact ⟨is_at.cursor, is_at.stands, is_at.entries,
      fun key member => is_at.pending key (List.mem_filter.mp member).1⟩

/-- The key of the current level. -/
theorem IsAt.dropKey (is_at : l.IsAt text c) : Gives text breaks (·.IsAt text c) l.dropKey := is_at.dropKeys

/-- The keys that are out of reach. -/
theorem IsAt.dropStaleKeys (is_at : l.IsAt text c) : Gives text breaks (·.IsAt text c) l.dropStaleKeys :=
  is_at.dropKeys

/-- A key may start at the cursor. -/
theorem IsAt.saveKey (is_at : l.IsAt text c) : Gives text breaks (·.IsAt text c) l.saveKey := by
  -- The key that is noted has the place of the cursor.
  unfold Lexer.saveKey
  split
  · refine is_at.dropKey.bind fun l is_at => ?_
    obtain rfl := is_at.cursor
    exact ⟨rfl, is_at.stands, is_at.entries, List.forall_mem_cons.mpr ⟨is_at.stands.isPlace, is_at.pending⟩⟩
  · exact is_at

/-- Block collections are closed where the cursor is. -/
theorem IsAt.closeWhile {isClosed : Nat → Bool} {indents : List Nat} (is_at : l.IsAt text c) :
    (closeWhile isClosed indents l).IsAt text c := by
  -- One token for each collection that is closed, all where the cursor is.
  induction indents generalizing l with
  | nil => exact ⟨is_at.cursor, is_at.stands, is_at.entries, is_at.pending⟩
  | cons indent outer ih =>
    rw [Lexer.closeWhile]
    split
    · exact ih (is_at.pushEmpty .blockEnd trivial)
    · exact ⟨is_at.cursor, is_at.stands, is_at.entries, is_at.pending⟩

/-- The same for those that are indented deeper. -/
theorem IsAt.unwind (is_at : l.IsAt text c) : l.unwind.IsAt text c := by
  -- Inside brackets nothing is closed.
  unfold Lexer.unwind
  split
  · exact is_at
  · exact is_at.closeWhile

/-- The same for all. -/
theorem IsAt.unwindAll (is_at : l.IsAt text c) : l.unwindAll.IsAt text c := by
  -- Inside brackets nothing is closed.
  unfold Lexer.unwindAll
  split
  · exact is_at
  · exact is_at.closeWhile

/-- A block collection is opened where the cursor is. -/
theorem IsAt.openBlock (is_at : l.IsAt text c) (kind : TokenKind) (plain : kind.IsOf text) :
    (l.openBlock kind).IsAt text c := by
  -- A deeper column opens a collection, with a token that has no characters.
  unfold Lexer.openBlock
  split
  · have opened := is_at.pushEmpty kind plain
    exact ⟨opened.cursor, opened.stands, opened.entries, opened.pending⟩
  · exact is_at

/-- What the next token needs besides is set without moving the cursor. -/
theorem IsAt.isOf (is_at : l.IsAt text c) (indents : List Nat) (brackets : List Bracket) (allowsKey : Bool)
    (version : Nat × Nat) (done : Bool) :
    Lexer.IsOf text { l with indents, brackets, allowsKey, version, done } :=
  ⟨c, is_at.cursor, is_at.stands, is_at.entries, is_at.pending⟩

/-- One character that is no carriage return. -/
theorem IsAt.pushOne (is_at : l.IsAt text c) (kind : TokenKind) (plain : kind.IsOf text) (sign : c.peek ≠ '\r') :
    (l.pushWidth kind 1).IsAt text (c.skip 1) :=
  is_at.pushWidth kind plain fun i below => by
    obtain rfl : i = 0 := by omega
    rwa [Cursor.ahead_zero]

/-- The end of the text. -/
theorem IsAt.fetchEnd (is_at : l.IsAt text c) : Gives text breaks (Lexer.IsOf text) l.fetchEnd := by
  -- All collections are closed, and the keys that are pending go with the end.
  refine is_at.unwindAll.dropKey.bind fun l is_at => ?_
  have pushed := is_at.pushEmpty .streamEnd trivial
  exact ⟨c, pushed.cursor, pushed.stands, pushed.entries, by simp⟩

/-- A directive. -/
theorem IsAt.fetchDirective (is_at : l.IsAt text c) (sign : c.peek = '%') :
    Gives text breaks (Lexer.IsOf text) l.fetchDirective := by
  refine is_at.unwindAll.dropKey.bind fun l is_at => ?_
  obtain rfl := is_at.cursor
  refine (readDirective_gives is_at.stands sign).bind fun line read => ?_
  -- Of the directives only that of a version can make reading break off.
  have plain : (TokenKind.directive line.directive).IsOf text := by
    cases named : line.directive with
    | version major minor => exact read.version major minor named
    | handle name start => trivial
    | unknown => trivial
  exact (is_at.push (.directive line.directive) plain is_at.stands.isPlace read.stop read.cursor).isOf ..

/-- A marker between documents. -/
theorem IsAt.fetchMarker {kind : TokenKind} {word : List Char} (is_at : l.IsAt text c) (plain : kind.IsOf text)
    (atWord : c.isAtWord word = true) (width : word.length = 3) (noReturn : '\r' ∉ word) :
    Gives text breaks (Lexer.IsOf text) (l.fetchMarker kind) := by
  -- None of the three characters of a marker is a carriage return.
  refine is_at.unwindAll.dropKey.bind fun l is_at => ?_
  exact (is_at.pushWidth kind plain fun i below same =>
    noReturn (same ▸ Cursor.ahead_of_isAtWord atWord (width ▸ below))).isOf ..

/-- An opening bracket. -/
theorem IsAt.fetchOpening {kind : TokenKind} {bracket : Bracket} (is_at : l.IsAt text c) (plain : kind.IsOf text)
    (sign : c.peek ≠ '\r') : Gives text breaks (Lexer.IsOf text) (l.fetchOpening kind bracket) := by
  -- A collection in brackets may be a key, so one is noted.
  refine is_at.saveKey.bind fun l is_at => ?_
  exact (is_at.pushOne kind plain sign).isOf ..

/-- A closing bracket. -/
theorem IsAt.fetchClosing {kind : TokenKind} (is_at : l.IsAt text c) (plain : kind.IsOf text)
    (sign : c.peek ≠ '\r') : Gives text breaks (Lexer.IsOf text) (l.fetchClosing kind) := by
  -- A key inside the brackets is given up with them.
  refine is_at.dropKey.bind fun l is_at => ?_
  exact (is_at.pushOne kind plain sign).isOf ..

/-- A comma. -/
theorem IsAt.fetchComma (is_at : l.IsAt text c) (sign : c.peek ≠ '\r') :
    Gives text breaks (Lexer.IsOf text) l.fetchComma := by
  -- A key in front of the comma is given up.
  refine is_at.dropKey.bind fun l is_at => ?_
  exact (is_at.pushOne .flowEntry trivial sign).isOf ..

/-- A collection that is opened unless the cursor is inside brackets. -/
theorem IsAt.openUnlessFlow (is_at : l.IsAt text c) (kind : TokenKind) (plain : kind.IsOf text) :
    (if l.isFlow then l else l.openBlock kind).IsAt text c := by
  -- Brackets make the indentation irrelevant.
  split
  · exact is_at
  · exact is_at.openBlock kind plain

/-- The dash of an item. -/
theorem IsAt.fetchDash (is_at : l.IsAt text c) (sign : c.peek ≠ '\r') :
    Gives text breaks (Lexer.IsOf text) l.fetchDash := by
  -- An item where none is allowed is a problem at the cursor.
  unfold Lexer.fetchDash
  dsimp only
  split
  · obtain rfl := is_at.cursor
    exact problemAt_isOf is_at.stands.isPlace
  · refine (is_at.openUnlessFlow .blockSequenceStart trivial).dropKey.bind fun l is_at => ?_
    exact (is_at.pushOne .blockEntry trivial sign).isOf ..

/-- The question mark of a key. -/
theorem IsAt.fetchQuestion (is_at : l.IsAt text c) (sign : c.peek ≠ '\r') :
    Gives text breaks (Lexer.IsOf text) l.fetchQuestion := by
  -- A key where none is allowed is a problem at the cursor.
  unfold Lexer.fetchQuestion
  dsimp only
  split
  · obtain rfl := is_at.cursor
    exact problemAt_isOf is_at.stands.isPlace
  · refine (is_at.openUnlessFlow .blockMappingStart trivial).dropKey.bind fun l is_at => ?_
    exact (is_at.pushOne .key trivial sign).isOf ..

/-- A pending key that becomes one. -/
theorem IsAt.confirmKey {key : PendingKey} (is_at : l.IsAt text c) (place : key.mark.IsPlaceOf text) :
    (l.confirmKey key).IsAt text c := by
  -- The key is not pending any more, and its token is put in front of what was read since.
  have kept : Lexer.IsAt text c { l with pending := l.pending.filter fun other => other.level != key.level } :=
    ⟨is_at.cursor, is_at.stands, is_at.entries, fun key member => is_at.pending key (List.mem_filter.mp member).1⟩
  have keyed := kept.insertEmpty .key key.number trivial place
  unfold Lexer.confirmKey
  dsimp only
  split
  · have opened := keyed.insertEmpty .blockMappingStart key.number trivial place
    exact ⟨opened.cursor, opened.stands, opened.entries, opened.pending⟩
  · exact keyed

/-- The colon of a value. -/
theorem IsAt.fetchColon (is_at : l.IsAt text c) (sign : c.peek ≠ '\r') :
    Gives text breaks (Lexer.IsOf text) l.fetchColon := by
  unfold Lexer.fetchColon
  split
  · -- The key that was pending is a key now, and its tokens go in front of those behind its mark.
    rename_i key found
    have place := is_at.pending key (List.mem_of_find?_eq_some found)
    exact ((is_at.confirmKey place).pushOne (.value false) trivial sign).isOf ..
  · dsimp only
    split
    · obtain rfl := is_at.cursor
      exact problemAt_isOf is_at.stands.isPlace
    · refine (is_at.openUnlessFlow .blockMappingStart trivial).dropKey.bind fun l is_at => ?_
      exact (is_at.pushOne (.value false) trivial sign).isOf ..

/-- An alias. -/
theorem IsAt.fetchAlias (is_at : l.IsAt text c) (sign : c.peek ≠ '\r') :
    Gives text breaks (Lexer.IsOf text) l.fetchAlias := by
  -- The name is read behind the sign, and the token ends with it.
  refine is_at.saveKey.bind fun l is_at => ?_
  obtain rfl := is_at.cursor
  refine (readAnchor_gives is_at.stands sign).bind fun read behind => ?_
  exact (is_at.push (.alias read.1) trivial is_at.stands.isPlace behind.isPlace behind).isOf ..

/-- An anchor. -/
theorem IsAt.fetchAnchor (is_at : l.IsAt text c) (sign : c.peek ≠ '\r') :
    Gives text breaks (Lexer.IsOf text) l.fetchAnchor := by
  -- The name is read behind the sign, and the token ends with it.
  refine is_at.saveKey.bind fun l is_at => ?_
  obtain rfl := is_at.cursor
  refine (readAnchor_gives is_at.stands sign).bind fun read behind => ?_
  exact (is_at.push (.anchor read.1) trivial is_at.stands.isPlace behind.isPlace behind).isOf ..

/-- A tag. -/
theorem IsAt.fetchTag (is_at : l.IsAt text c) (sign : c.peek = '!') :
    Gives text breaks (Lexer.IsOf text) l.fetchTag := by
  -- The tag is read from its sign on, and the token ends with it.
  refine is_at.saveKey.bind fun l is_at => ?_
  obtain rfl := is_at.cursor
  refine (readTag_gives is_at.stands sign).bind fun read behind => ?_
  exact (is_at.push (.tag read.1) trivial is_at.stands.isPlace behind.isPlace behind).isOf ..

/-- A scalar in quotes. -/
theorem IsAt.fetchQuoted {double : Bool} (is_at : l.IsAt text c) (sign : c.peek ≠ '\r')
    (huge : HoldsHugeCode text → breaks .hugeCode) :
    Gives text breaks (Lexer.IsOf text) (l.fetchQuoted double) := by
  -- Here alone an escape can make the reading break off.
  refine is_at.saveKey.bind fun l is_at => ?_
  obtain rfl := is_at.cursor
  refine (readQuoted_gives is_at.stands sign huge).bind fun read behind => ?_
  have plain : (TokenKind.scalar (if double then .doubleQuoted else .singleQuoted) read.1).IsOf text := by
    cases double <;> trivial
  exact (is_at.push _ plain is_at.stands.isPlace behind.isPlace behind).isOf ..

/-- A scalar without quotes. -/
theorem IsAt.fetchPlain (is_at : l.IsAt text c) : Gives text breaks (Lexer.IsOf text) l.fetchPlain := by
  -- A plain scalar cannot fail, it ends where its last run does.
  refine is_at.saveKey.bind fun l is_at => ?_
  obtain rfl := is_at.cursor
  have read := readPlain_isOf ⟨l.isFlow, l.isFirstVersion, l.least⟩ is_at.stands
  exact (is_at.push (.scalar .plain _) read.ends is_at.stands.isPlace read.stop read.cursor).isOf ..

/-- A block scalar. -/
theorem IsAt.fetchBlock {folded : Bool} (is_at : l.IsAt text c) (sign : c.peek ≠ '\r') :
    Gives text breaks (Lexer.IsOf text) (Lexer.fetch.fetchBlock l folded) := by
  refine is_at.dropKey.bind fun l is_at => ?_
  obtain rfl := is_at.cursor
  refine (readBlock_gives is_at.stands sign).bind fun scalar read => ?_
  have plain : (TokenKind.scalar (if folded then .folded else .literal) scalar.text).IsOf text := by
    cases folded <;> trivial
  -- Comments behind the scalar may be passed over with it.
  have behind : (if scalar.dropsBlank then scalar.cursor.skipComments else scalar.cursor).StandsIn text := by
    split
    · exact read.cursor.skipCommentsFrom
    · exact read.cursor
  exact (is_at.push _ plain is_at.stands.isPlace read.stop behind).isOf ..

/-- The token at the cursor, whichever it is. -/
theorem IsAt.fetch (is_at : l.IsAt text c) (huge : HoldsHugeCode text → breaks .hugeCode) :
    Gives text breaks (Lexer.IsOf text) l.fetch := by
  obtain rfl := is_at.cursor
  have sign : ∀ {char : Char}, (l.cursor.peek == char) = true → char ≠ '\r' → l.cursor.peek ≠ '\r' :=
    fun here other => eq_of_beq here ▸ other
  -- One case for each test, in the order in which they are made.
  refine .ite (fun _ => is_at.fetchEnd) fun _ => ?_
  refine .ite (fun here => is_at.fetchDirective (eq_of_beq (Bool.and_eq_true_iff.mp here).1)) fun _ => ?_
  refine .ite (fun here => is_at.fetchMarker trivial (Bool.and_eq_true_iff.mp here).2 rfl (by decide)) fun _ => ?_
  refine .ite (fun here => is_at.fetchMarker trivial (Bool.and_eq_true_iff.mp here).2 rfl (by decide)) fun _ => ?_
  refine .ite (fun here => is_at.fetchOpening trivial (sign here (by decide))) fun _ => ?_
  refine .ite (fun here => is_at.fetchOpening trivial (sign here (by decide))) fun _ => ?_
  refine .ite (fun here => is_at.fetchClosing trivial (sign here (by decide))) fun _ => ?_
  refine .ite (fun here => is_at.fetchClosing trivial (sign here (by decide))) fun _ => ?_
  refine .ite (fun here => is_at.fetchComma (sign here (by decide))) fun _ => ?_
  refine .ite (fun here => is_at.fetchDash (sign (Bool.and_eq_true_iff.mp here).1 (by decide))) fun _ => ?_
  refine .ite (fun here => is_at.fetchQuestion (sign (Bool.and_eq_true_iff.mp here).1 (by decide))) fun _ => ?_
  refine .ite (fun here => is_at.fetchColon (sign (Bool.and_eq_true_iff.mp here).1 (by decide))) fun _ => ?_
  refine .ite (fun here => is_at.fetchAlias (sign here (by decide))) fun _ => ?_
  refine .ite (fun here => is_at.fetchAnchor (sign here (by decide))) fun _ => ?_
  refine .ite (fun here => is_at.fetchTag (eq_of_beq here)) fun _ => ?_
  refine .ite (fun here => is_at.fetchBlock (sign (Bool.and_eq_true_iff.mp here).1 (by decide))) fun _ => ?_
  refine .ite (fun here => is_at.fetchBlock (sign (Bool.and_eq_true_iff.mp here).1 (by decide))) fun _ => ?_
  refine .ite (fun here => is_at.fetchQuoted (sign here (by decide)) huge) fun _ => ?_
  refine .ite (fun here => is_at.fetchQuoted (sign here (by decide)) huge) fun _ => ?_
  exact .ite (fun _ => is_at.fetchPlain) fun _ => placed_isOf is_at.stands.isPlace

/-- A comment on the line of a colon is noted with it. -/
theorem markCommented_isOf {start : Mark} {entries : List Token} (tokens : ∀ token ∈ entries, token.IsOf text) :
    ∀ token ∈ markCommented start entries, token.IsOf text := by
  -- The mark goes to the colon that was read last, at its own place.
  unfold markCommented
  split
  · rw [List.forall_mem_cons] at tokens ⊢
    exact ⟨⟨trivial, tokens.1.start, tokens.1.stop⟩, tokens.2⟩
  · exact tokens

/-- One more entry. -/
theorem IsOf.step (is_of : l.IsOf text) (huge : HoldsHugeCode text → breaks .hugeCode) :
    Gives text breaks (Lexer.IsOf text) l.step := by
  obtain ⟨c, is_at⟩ := is_of
  obtain rfl := is_at.cursor
  -- A byte order mark in front of everything else is no line break.
  have opened : (if l.cursor.mark.index == 0 && l.cursor.peek == byteOrderMark then l.cursor.next
      else l.cursor).StandsIn text := by
    split
    · rename_i opening
      exact is_at.stands.next_over (eq_of_beq (Bool.and_eq_true_iff.mp opening).2) (by decide)
    · exact is_at.stands
  unfold Lexer.step
  dsimp only
  generalize (if l.cursor.mark.index == 0 && l.cursor.peek == byteOrderMark then l.cursor.next
      else l.cursor) = start at opened ⊢
  have lead : (start.lead l.isFlow).IsOf text := opened.lead
  generalize start.lead l.isFlow = found at lead ⊢
  have moved : ∀ allowsKey, Lexer.IsAt text found.cursor { l with allowsKey, cursor := found.cursor } :=
    fun _ => ⟨rfl, lead.cursor, is_at.entries, is_at.pending⟩
  split
  · -- A comment becomes a token of its own; otherwise the token at the cursor is fetched.
    rename_i mark comment
    have place := lead.comment mark comment
    exact ⟨found.cursor, rfl, lead.cursor, List.forall_mem_cons.mpr ⟨⟨trivial, place, lead.cursor.isPlace⟩,
      markCommented_isOf is_at.entries⟩, is_at.pending⟩
  · refine (moved _).dropStaleKeys.bind fun l is_at => ?_
    exact is_at.unwind.fetch huge

/-- One more entry, and the keys that are out of reach then. -/
theorem IsOf.advance (is_of : l.IsOf text) (huge : HoldsHugeCode text → breaks .hugeCode) :
    Gives text breaks (Lexer.IsOf text) l.advance := by
  -- A key that has become stale can be a problem, at a place in the text.
  refine (is_of.step huge).bind fun l is_of => .ite (fun _ => is_of) fun _ => ?_
  obtain ⟨c, is_at⟩ := is_of
  exact is_at.dropStaleKeys.mono fun l is_at => ⟨c, is_at⟩

end Lexer

/-- The only way in which turning a text into tokens breaks off: at the escape of a code that is too long. -/
def BreaksLexer (text : List Char) (cause : Breakdown) : Prop := cause = .hugeCode ∧ HoldsHugeCode text

/-- The tokens of a text, and what keeps it from having more. -/
structure TokenList.IsOf (text : List Char) (list : TokenList) : Prop where
  tokens : ∀ token ∈ list.tokens, token.IsOf text
  failure : ∀ failure ∈ list.failure, failure.IsOf text (BreaksLexer text)

/-- What a lexer has come to holds of its text all the way to the end. -/
theorem Lexer.IsOf.run {l : Lexer} {fuel : Nat} (is_of : l.IsOf text) : (l.run fuel).IsOf text := by
  -- What a lexer gives away when it stops early are some of its entries.
  have settled : ∀ l : Lexer, l.IsOf text → ∀ token ∈ withoutComments l.settled, token.IsOf text := by
    rintro l ⟨c, is_at⟩ token member
    exact is_at.entries token (List.mem_reverse.mp (List.mem_of_mem_take (List.mem_filter.mp member).1))
  induction fuel generalizing l with
  | zero => exact ⟨settled l is_of, by simpa [Lexer.run] using problemOf_isOf⟩
  | succ fuel ih =>
    rw [Lexer.run]
    split
    · obtain ⟨c, is_at⟩ := is_of
      exact ⟨fun token member => is_at.entries token (List.mem_reverse.mp (List.mem_filter.mp member).1), by simp⟩
    · have next : Gives text (BreaksLexer text) (Lexer.IsOf text) l.advance := is_of.advance fun held => ⟨rfl, held⟩
      split
      · rename_i failure stopped
        rw [stopped] at next
        have belongs : failure.IsOf text (BreaksLexer text) := next
        exact ⟨settled l is_of, by simpa using belongs⟩
      · rename_i more advanced
        rw [advanced] at next
        exact ih next

/-- The tokens of a text are its own. -/
theorem tokensOf_isOf (text : List Char) : (tokensOf text).IsOf text :=
  Lexer.IsOf.run ⟨_, Lexer.ofText_isAt text⟩

end PlanLint
