import PlanLint.Proofs.Yaml.Token.Word
import PlanLint.Yaml.Token.Lexer

/-! The tokens of a text whose lines are entries: a key of letters, and a word as its value. -/

namespace PlanLint

/-- How a word is written. -/
inductive WordStyle where
  | plain
  | quoted (double : Bool)
deriving DecidableEq

/-- The style of a scalar that is written as a word. -/
def WordStyle.scalar : WordStyle → ScalarStyle
  | .plain => .plain
  | .quoted double => if double then .doubleQuoted else .singleQuoted

/-- A word as it is written. -/
def WordStyle.spell (style : WordStyle) (word : List Char) : List Char :=
  match style with
  | .plain => word
  | .quoted double => quoteOf double :: (word ++ [quoteOf double])

/-- An entry on a line of its own. A longer word than that is not looked at as a key. -/
structure EntryLine where
  key : List Char
  style : WordStyle
  value : List Char
  letters : ∀ c ∈ key, c.isAlpha = true
  named : key ≠ []
  short : key.length ≤ 1024
  isWord : IsWord value

/-- The line of an entry. -/
def EntryLine.line (e : EntryLine) : List Char := e.key ++ ':' :: ' ' :: e.style.spell e.value

/-- What stands behind an entry: the end of the text, with a newline or without, or the lines that follow. -/
def textBehind (ended : Bool) : List EntryLine → List Char
  | [] => if ended then ['\n'] else []
  | e :: more => '\n' :: (e.line ++ textBehind ended more)

/-- A text of entries. Its last line may end with a newline. -/
def entryText (ended : Bool) : List EntryLine → List Char
  | [] => []
  | e :: more => e.line ++ textBehind ended more

/-- The tokens of an entry. -/
def EntryLine.kinds (e : EntryLine) : List TokenKind :=
  [.key, .scalar .plain e.key, .value false, .scalar e.style.scalar e.value]

variable {key word rest : List Char} {l : Lexer} {mark : Mark} {ended : Bool}

/-- A key is a word. -/
theorem EntryLine.isKeyWord (e : EntryLine) : IsWord e.key where
  written := e.named
  all := by
    -- Letters are among the characters of words.
    intro c inside
    simp [isSimpleCharacter, Char.isAlphanum, e.letters c inside]

/-- Where an entry starts, a line may start. -/
theorem startsLine_entryText (ended : Bool) (entries : List EntryLine) : StartsLine (entryText ended entries) := by
  cases entries with
  | nil => exact ⟨by simp [entryText], by simp [entryText]⟩
  | cons e more =>
    obtain ⟨first, tail, split⟩ := List.exists_cons_of_ne_nil e.named
    have letter : first.isAlpha = true := e.letters first (by simp [split])
    -- A letter stands there, which is neither a blank nor a sign nor the point of a document marker.
    refine ⟨?_, ?_⟩
    · intro c head
      obtain rfl : first = c := by simpa [entryText, EntryLine.line, split] using head
      exact e.isKeyWord.all first (by simp [split])
    · rintro ⟨tail, starts⟩
      have point : first = '.' := by
        have := congrArg List.head? starts
        simpa [entryText, EntryLine.line, split] using this.symm
      rw [point] at letter
      exact absurd letter (by decide)

/-- Behind an entry is the end of the text, or a newline and the other entries. -/
theorem textBehind_cases (ended : Bool) (more : List EntryLine) :
    (textBehind ended more = [] ∧ more = []) ∨ textBehind ended more = '\n' :: entryText ended more := by
  -- Only without another entry does it matter whether a last newline ends the text.
  cases more with
  | nil =>
    cases ended with
    | false => exact .inl ⟨rfl, rfl⟩
    | true => exact .inr rfl
  | cons e more => exact .inr rfl

/-- A character before which nothing is passed over. -/
def isSolid (c : Char) : Bool := c != ' ' && c != '#' && !breaksLine c

/-- The lead ends behind spaces if a solid character or the end of the text follows. -/
theorem leadFrom_spaces {c : Cursor}
    (passed : c.skipRun (fun char => char == ' ' || (false && char == '\t')) = ⟨rest, mark⟩)
    (solid : ∀ c ∈ rest.head?, isSolid c = true) (fuel : Nat) (crossed : Bool) :
    leadFrom false (fuel + 1) c crossed = ⟨none, ⟨rest, mark⟩, crossed⟩ := by
  -- A solid character is neither the sign of a comment nor a line break.
  rw [leadFrom, passed]
  cases rest with
  | nil => rfl
  | cons c rest =>
    have here := solid c rfl
    simp only [isSolid, Bool.and_eq_true, bne_iff_ne, Bool.not_eq_true'] at here
    obtain ⟨⟨-, noSign⟩, noBreak⟩ := here
    simp [Cursor.peek, noSign, Cursor.lineBreak?_none noBreak]

/-- No spaces stand in front of a solid character or of the end of the text. -/
theorem skipRun_solid (solid : ∀ c ∈ rest.head?, isSolid c = true) :
    Cursor.skipRun (fun char => char == ' ' || (false && char == '\t')) ⟨rest, mark⟩ = ⟨rest, mark⟩ := by
  -- A solid character is no space.
  apply Cursor.skipRun_self
  intro c head
  have here := solid c head
  simp only [isSolid, Bool.and_eq_true, bne_iff_ne] at here
  simp [here.1.1]

/-- Nothing is passed over in front of a solid character or of the end of the text. -/
theorem lead_solid (solid : ∀ c ∈ rest.head?, isSolid c = true) :
    Cursor.lead false ⟨rest, mark⟩ = ⟨none, ⟨rest, mark⟩, false⟩ :=
  leadFrom_spaces (skipRun_solid solid) solid rest.length false

/-- Where a line may start a solid character stands, or the text ends. -/
theorem StartsLine.solid_head (starts : StartsLine rest) : ∀ c ∈ rest.head?, isSolid c = true := by
  -- Such a character can start a word, so it is solid.
  intro c head
  obtain ⟨-, -, noBreak, -, noSign, noSpace, -⟩ := plain_of_isSimpleCharacter (starts.solid c head)
  simp [isSolid, noBreak, noSign, noSpace]

/-- One space is passed over. -/
theorem lead_space (solid : ∀ c ∈ rest.head?, isSolid c = true) :
    Cursor.lead false ⟨' ' :: rest, mark⟩ = ⟨none, ⟨rest, mark.along 1⟩, false⟩ := by
  -- The space is skipped by one step, and nothing behind it.
  apply leadFrom_spaces _ solid
  rw [Cursor.skipRun_next rfl rfl, Cursor.next_along rfl (by decide) (by decide), skipRun_solid solid]

/-- One newline is passed over. -/
theorem lead_newline (solid : ∀ c ∈ rest.head?, isSolid c = true) :
    Cursor.lead false ⟨'\n' :: rest, mark⟩ = ⟨none, ⟨rest, mark.below⟩, true⟩ := by
  have stays : Cursor.skipRun (fun char => char == ' ' || (false && char == '\t')) ⟨'\n' :: rest, mark⟩ =
      ⟨'\n' :: rest, mark⟩ := Cursor.skipRun_self (by simp)
  have newline : Cursor.lineBreak? ⟨'\n' :: rest, mark⟩ = some ('\n', ⟨rest, mark.below⟩) := rfl
  -- What follows the newline is not a second one.
  have oneOnly : (Cursor.peek ⟨rest, mark.below⟩ == '\n') = false := by
    cases rest with
    | nil => rfl
    | cons c rest =>
      have here := solid c rfl
      rw [Bool.eq_false_iff]
      intro same
      have newline : c = '\n' := by simpa [Cursor.peek] using same
      rw [newline] at here
      exact absurd here (by decide)
  rw [Cursor.lead, leadFrom, stays, newline]
  simp only [oneOnly]
  exact leadFrom_spaces (skipRun_solid solid) solid rest.length true

/-- A lexer outside all brackets that has made tokens of some kinds, the last one first. It is at the first
column of the mapping whose keys it reads, if it has met one. -/
structure Lexer.Made (l : Lexer) (kinds : List TokenKind) (opened : Bool) : Prop where
  kinds : l.entries.map (·.kind) = kinds
  count : l.count = l.entries.length
  indents : l.indents = if opened then [0] else []
  brackets : l.brackets = []
  version : l.version = currentVersion
  running : l.done = false

variable {kinds : List TokenKind} {opened : Bool}

/-- It is outside all brackets. -/
theorem Lexer.Made.isFlow_eq (made : l.Made kinds opened) : l.isFlow = false := by
  -- No bracket is open.
  simp [Lexer.isFlow, made.brackets]

/-- The current rules for plain scalars hold. -/
theorem Lexer.Made.isFirstVersion_eq (made : l.Made kinds opened) : l.isFirstVersion = false := by
  -- No directive has changed the version.
  simp [Lexer.isFirstVersion, made.version, currentVersion, firstVersion]

/-- What it has made does not depend on the place it is at, nor on the keys it has noted. -/
theorem Lexer.Made.moved (made : l.Made kinds opened) (cursor : Cursor) (pending : List PendingKey)
    (allowsKey : Bool) :
    { l with cursor := cursor, pending := pending, allowsKey := allowsKey }.Made kinds opened :=
  ⟨made.kinds, made.count, made.indents, made.brackets, made.version, made.running⟩

/-- One more token is one more kind. -/
theorem Lexer.Made.push (made : l.Made kinds opened) (kind : TokenKind) (start stop : Mark) (cursor : Cursor)
    (allowsKey : Bool) :
    { l.push kind start stop cursor with allowsKey := allowsKey }.Made (kind :: kinds) opened where
  kinds := by simp [Lexer.push, made.kinds]
  count := by simp [Lexer.push, made.count]
  indents := made.indents
  brackets := made.brackets
  version := made.version
  running := made.running

/-- A lexer in front of a line, or at the end of the text. -/
structure Lexer.AtLine (l : Lexer) (kinds : List TokenKind) (opened : Bool) (rest : List Char) : Prop
    extends l.Made kinds opened where
  pending : l.pending = []
  noMark : l.cursor.peek ≠ byteOrderMark
  ready : ∃ c crossed, l.cursor.lead false = ⟨none, c, crossed⟩ ∧ c.rest = rest ∧
    (rest ≠ [] → c.mark.column = 0 ∧ (l.allowsKey || crossed) = true)

/-- A lexer behind a key. -/
structure Lexer.AtColon (l : Lexer) (kinds : List TokenKind) (opened : Bool) (rest : List Char) : Prop
    extends l.Made kinds opened where
  front : l.cursor.rest = ':' :: ' ' :: rest
  inside : 0 < l.cursor.mark.column
  barred : l.allowsKey = false
  pending : ∃ key : PendingKey, l.pending = [key] ∧ key.level = 0 ∧ key.number + 1 = l.count ∧ key.mark.column = 0 ∧
    key.mark.line = l.cursor.mark.line ∧ l.cursor.mark.index ≤ key.mark.index + 1024

/-- A lexer behind the colon of an entry. -/
structure Lexer.AtValue (l : Lexer) (kinds : List TokenKind) (rest : List Char) : Prop
    extends l.Made kinds true where
  front : l.cursor.rest = ' ' :: rest
  inside : 0 < l.cursor.mark.column
  barred : l.allowsKey = false
  pending : l.pending = []

/-- Where no key is pending none is given up. -/
theorem Lexer.dropKeys_none (none : l.pending = []) (isDropped : PendingKey → Bool) :
    l.dropKeys isDropped = .ok l := by
  -- The test runs over the pending keys.
  obtain ⟨cursor, entries, count, indents, brackets, pending, allowsKey, version, done⟩ := l
  subst none
  rfl

/-- A pending key that is not to be given up stays. -/
theorem Lexer.dropKeys_kept {key : PendingKey} (pending : l.pending = [key]) {isDropped : PendingKey → Bool}
    (kept : isDropped key = false) : l.dropKeys isDropped = .ok l := by
  -- The pending key is the only one that could be given up.
  obtain ⟨cursor, entries, count, indents, brackets, pending', allowsKey, version, done⟩ := l
  subst pending
  simp [Lexer.dropKeys, kept]

/-- A key that starts on the line of the cursor and no more than 1024 characters back is not stale. -/
theorem Lexer.dropStaleKeys_kept {key : PendingKey} (pending : l.pending = [key])
    (line : key.mark.line = l.cursor.mark.line) (near : l.cursor.mark.index ≤ key.mark.index + 1024) :
    l.dropStaleKeys = .ok l := by
  -- A key is stale on a later line or more than 1024 characters on.
  apply Lexer.dropKeys_kept pending
  have close : l.cursor.mark.index - key.mark.index ≤ 1024 := by omega
  simpa [line] using close

/-- Where no key is pending none is stale. -/
theorem Lexer.dropStaleKeys_none (none : l.pending = []) : l.dropStaleKeys = .ok l :=
  Lexer.dropKeys_none none _

/-- A step after which the text goes on is an advance if no key becomes stale. -/
theorem Lexer.advance_of_step {next : Lexer} (step : l.step = .ok next) (running : next.done = false)
    (fresh : next.dropStaleKeys = .ok next) : l.advance = .ok next := by
  -- A step is followed by the test for stale keys unless the text has ended.
  rw [Lexer.advance, step]
  simp [Bind.bind, Except.bind, running, fresh]

/-- At the column of the open mapping or behind it, nothing is closed. -/
theorem Lexer.unwind_made (made : l.Made kinds opened) : l.unwind = l := by
  -- The column is not left of the open mapping, and without one nothing is open.
  obtain ⟨cursor, entries, count, indents, brackets, pending, allowsKey, version, done⟩ := l
  have indents := made.indents
  cases opened with
  | false => simp_all [Lexer.unwind, Lexer.closeWhile]
  | true => simp_all [Lexer.unwind, Lexer.closeWhile]

/-- A step in front of which only blanks and newlines are passed over fetches what stands behind them, if no key
becomes stale there. -/
theorem Lexer.Made.step_eq {c : Cursor} {crossed : Bool} (made : l.Made kinds opened)
    (noMark : l.cursor.peek ≠ byteOrderMark) (lead : l.cursor.lead false = ⟨none, c, crossed⟩)
    (fresh : { l with cursor := c, allowsKey := l.allowsKey || crossed }.dropStaleKeys =
      .ok { l with cursor := c, allowsKey := l.allowsKey || crossed }) :
    l.step = { l with cursor := c, allowsKey := l.allowsKey || crossed }.fetch := by
  have start : (l.cursor.mark.index == 0 && l.cursor.peek == byteOrderMark) = false := by simp [noMark]
  unfold Lexer.step
  simp only [start, Bool.false_eq_true, if_false, made.isFlow_eq, lead, Bool.not_false, Bool.and_true, fresh]
  -- Behind the lead nothing is closed, as the only collection that may be open is at the first column.
  exact congrArg Lexer.fetch (Lexer.unwind_made (made.moved c l.pending (l.allowsKey || crossed)))

/-- The signs that are looked for before a plain scalar. -/
def leadingSigns : List Char :=
  ['%', '[', '\x7b', ']', '\x7d', ',', '-', '?', ':', '*', '&', '!', '|', '>', '\'', '"', '#', '@', '`', '\t']

/-- A word starts with none of them. -/
theorem not_mem_leadingSigns {c : Char} (simple : isSimpleCharacter c = true) : c ∉ leadingSigns :=
  of_isSimpleCharacter (P := fun c => c ∉ leadingSigns) (by decide +kernel) simple

/-- A plain scalar may start with a character of a word. -/
theorem Lexer.startsPlain_word {first : Char} (here : l.cursor.peek = first)
    (simple : isSimpleCharacter first = true) :
    l.startsPlain = true := by
  have noSign := not_mem_leadingSigns simple
  simp only [leadingSigns, List.mem_cons, List.not_mem_nil, or_false, not_or] at noSign
  obtain ⟨inside, -, noBreak, -, -, noSpace, -⟩ := plain_of_isSimpleCharacter simple
  -- It is none of the signs that start something else, no blank, and not the end of the text.
  have noEnd : first ≠ endOfText := by
    rintro rfl
    exact absurd inside (by decide)
  have signs : "-?:,[]\x7b\x7d#&*!|>'\"%@`".toList =
    ['-', '?', ':', ',', '[', ']', '\x7b', '\x7d', '#', '&', '*', '!',
    '|', '>', '\'', '"', '%', '@', '`'] := by decide
  simp [Lexer.startsPlain, here, endsName, noSpace, noBreak, noEnd, signs, noSign]

/-- What is fetched where a word starts. -/
theorem Lexer.fetch_word {first : Char} (front : l.cursor.rest = first :: rest)
    (simple : isSimpleCharacter first = true)
    (noMarker : l.column = 0 → l.cursor.isAtMarker = false) : l.fetch = l.fetchPlain := by
  have noSign := not_mem_leadingSigns simple
  simp only [leadingSigns, List.mem_cons, List.not_mem_nil, or_false, not_or] at noSign
  have here := Cursor.peek_eq front
  have starts := l.startsPlain_word here simple
  -- At the first column of a line the two markers are looked for as well.
  have markers : (l.column == 0 && l.cursor.isAtWord ['-', '-', '-']) = false ∧
      (l.column == 0 && l.cursor.isAtWord ['.', '.', '.']) = false := by
    by_cases first : l.column = 0
    · have both := noMarker first
      simp only [Cursor.isAtMarker, Bool.or_eq_false_iff] at both
      simp [both]
    · simp [first]
  simp [Lexer.fetch, here, front, noSign, markers, starts]

/-- What is fetched where a quote stands. -/
theorem Lexer.fetch_quote (double : Bool) (front : l.cursor.rest = quoteOf double :: rest) (inside : 0 < l.column) :
    l.fetch = l.fetchQuoted double := by
  -- A quote is none of the signs that are asked for before it, and it does not stand where a directive or a marker
  -- could.
  have here := Cursor.peek_eq front
  have column : (l.column == 0) = false := by simpa using Nat.ne_of_gt inside
  cases double with
  | false => simp [Lexer.fetch, here, front, quoteOf, column]
  | true => simp [Lexer.fetch, here, front, quoteOf, column]

/-- What is fetched where the colon behind a key stands. -/
theorem Lexer.fetch_colon (front : l.cursor.rest = ':' :: ' ' :: rest) (inside : 0 < l.column)
    (brackets : l.brackets = []) : l.fetch = l.fetchColon := by
  -- With a space behind it the colon is the sign of a value, and none of the signs asked for before it.
  have here := Cursor.peek_eq front
  have column : (l.column == 0) = false := by simpa using Nat.ne_of_gt inside
  have space : l.cursor.ahead 1 = ' ' := by rw [Cursor.ahead, front]; rfl
  have value : l.startsValue = true := by simp [Lexer.startsValue, brackets, space, endsWord]
  simp [Lexer.fetch, here, front, column, value]

/-- What is fetched at the end of the text. -/
theorem Lexer.fetch_end (front : l.cursor.rest = []) : l.fetch = l.fetchEnd := by
  -- The end of the text is asked for first.
  simp [Lexer.fetch, front]

variable {more : List EntryLine}

/-- Where a key may start it is noted. -/
theorem Lexer.saveKey_allowed (allowed : l.allowsKey = true) (none : l.pending = []) (brackets : l.brackets = []) :
    l.saveKey = .ok { l with pending := [⟨0, l.count, l.indents.head? == some l.column, l.cursor.mark⟩] } := by
  -- No other key is pending on the level, so none has to be given up.
  have dropped : l.dropKey = .ok l := Lexer.dropKeys_none none _
  rw [Lexer.saveKey, if_pos allowed, dropped]
  simp [Bind.bind, Except.bind, Pure.pure, Except.pure, Lexer.level, Lexer.isFlow, brackets, none]

/-- Elsewhere none is. -/
theorem Lexer.saveKey_barred (barred : l.allowsKey = false) : l.saveKey = .ok l := by
  -- Whether a key is allowed is asked first.
  rw [Lexer.saveKey, if_neg (by simp [barred])]

/-- A key is taken from the start of its line up to its colon. -/
theorem Lexer.AtLine.advance (at_line : l.AtLine kinds opened (key ++ ':' :: ' ' :: rest)) (isWord : IsWord key)
    (short : key.length ≤ 1024) (starts : StartsLine (key ++ ':' :: ' ' :: rest)) :
    ∃ next : Lexer, l.advance = .ok next ∧ next.AtColon (.scalar .plain key :: kinds) opened rest := by
  obtain ⟨c, crossed, lead, front, ready⟩ := at_line.ready
  obtain ⟨column, allowed⟩ := ready (by simp)
  -- The lexer once it has come to the start of the line, and once the key is noted.
  let started : Lexer := { l with allowsKey := l.allowsKey || crossed, cursor := c }
  let noted : Lexer := { started with pending := [⟨0, l.count, l.indents.head? == some c.mark.column, c.mark⟩] }
  have made : noted.Made kinds opened := at_line.toMade.moved c _ _
  have stepped : l.step = started.fetchPlain := by
    obtain ⟨first, simple, here⟩ := isWord.exists_peek front
    obtain ⟨tail, split⟩ := Cursor.rest_eq_cons here (by rintro rfl; exact absurd simple (by decide))
    have markless : c.isAtMarker = false := by
      have := starts.isAtMarker_eq c.mark
      rwa [← front] at this
    rw [at_line.toMade.step_eq at_line.noMark lead (Lexer.dropStaleKeys_none at_line.pending)]
    exact started.fetch_word split simple fun _ => markless
  have saved : started.saveKey = .ok noted := Lexer.saveKey_allowed allowed at_line.pending at_line.brackets
  have read : readPlain ⟨noted.isFlow, noted.isFirstVersion, noted.least⟩ noted.cursor =
      ⟨key, c.mark.along key.length, ⟨':' :: ' ' :: rest, c.mark.along key.length⟩, false⟩ := by
    rw [made.isFlow_eq, made.isFirstVersion_eq]
    exact readPlain_word _ isWord front .key (by simp)
  let next : Lexer := { noted.push (.scalar .plain key) c.mark (c.mark.along key.length)
    ⟨':' :: ' ' :: rest, c.mark.along key.length⟩ with allowsKey := false }
  have fetched : l.step = .ok next := by
    rw [stepped, Lexer.fetchPlain, saved]
    simp only [Bind.bind, Except.bind, read]
    rfl
  -- The key is short enough to be still pending behind it.
  have fresh : next.dropStaleKeys = .ok next :=
    Lexer.dropStaleKeys_kept rfl rfl (Nat.add_le_add_left short _)
  refine ⟨next, Lexer.advance_of_step fetched at_line.running fresh, ?_⟩
  exact {
    made.push (.scalar .plain key) _ _ _ false with
    front := rfl
    inside := Nat.lt_of_lt_of_le (List.length_pos_iff.mpr isWord.written) (Nat.le_add_left _ _)
    barred := rfl
    pending := ⟨_, rfl, rfl, rfl, column, rfl, Nat.add_le_add_left short _⟩ }

/-- The kinds of the tokens in front of a value, the last one first. -/
def kindsBefore (opened : Bool) (key : List Char) (kinds : List TokenKind) : List TokenKind :=
  .value false :: .scalar .plain key :: .key :: (if opened then kinds else .blockMappingStart :: kinds)

/-- A key that is confirmed has its token in front of it, and in front of that the start of the mapping if it is
the first. -/
theorem Lexer.confirmKey_made {pending : PendingKey} (made : l.Made (.scalar .plain key :: kinds) opened)
    (number : pending.number + 1 = l.count) (column : pending.mark.column = 0) :
    (l.confirmKey pending).entries.map (·.kind) =
        .scalar .plain key :: .key :: (if opened then kinds else .blockMappingStart :: kinds) ∧
      (l.confirmKey pending).count = (l.confirmKey pending).entries.length ∧
      (l.confirmKey pending).indents = [0] := by
  obtain ⟨token, before, entries⟩ : ∃ token before, l.entries = token :: before :=
    List.exists_cons_of_ne_nil (by rintro none; simpa [none] using made.kinds)
  have kind : token.kind = .scalar .plain key ∧ before.map (·.kind) = kinds := by
    simpa [entries] using made.kinds
  have count := made.count
  have indents := made.indents
  have behind : l.count - pending.number = 1 := by omega
  have behindBoth : l.count + 1 - pending.number = 2 := by omega
  have flow := made.isFlow_eq
  -- If no mapping is open, its start is put in front of the key as well, two entries back.
  cases opened with
  | true =>
    simp_all [Lexer.confirmKey, Lexer.insertEmpty, Lexer.isFlow, Lexer.isDeeper]
  | false =>
    simp_all [Lexer.confirmKey, Lexer.insertEmpty, Lexer.isFlow, Lexer.isDeeper]

/-- Confirming a key moves nothing else, and takes it off those that are pending. -/
theorem Lexer.confirmKey_rest (l : Lexer) (key : PendingKey) :
    (l.confirmKey key).cursor = l.cursor ∧ (l.confirmKey key).brackets = l.brackets ∧
      (l.confirmKey key).version = l.version ∧ (l.confirmKey key).done = l.done ∧
      (l.confirmKey key).pending = l.pending.filter fun other => other.level != key.level := by
  -- A mapping may be opened, which only adds tokens and an indentation.
  unfold Lexer.confirmKey
  dsimp only
  split
  · exact ⟨rfl, rfl, rfl, rfl, rfl⟩
  · exact ⟨rfl, rfl, rfl, rfl, rfl⟩

/-- The colon behind a key confirms it; the first one opens the mapping. -/
theorem Lexer.AtColon.advance (at_colon : l.AtColon (.scalar .plain key :: kinds) opened rest) :
    ∃ next : Lexer, l.advance = .ok next ∧ next.AtValue (kindsBefore opened key kinds) rest := by
  obtain ⟨pending, onlyOne, level, number, column, line, near⟩ := at_colon.pending
  -- What confirming the key changes, and what it leaves.
  obtain ⟨kindsMade, countMade, indentsMade⟩ := l.confirmKey_made at_colon.toMade number column
  obtain ⟨cursorKept, bracketsKept, versionKept, doneKept, pendingLeft⟩ := l.confirmKey_rest pending
  have cursor : l.cursor = ⟨':' :: ' ' :: rest, l.cursor.mark⟩ := by rw [← at_colon.front]
  have lead : l.cursor.lead false = ⟨none, l.cursor, false⟩ := by
    rw [cursor]
    exact lead_solid (by simp [isSolid, breaksLine])
  have noMark : l.cursor.peek ≠ byteOrderMark := by
    rw [Cursor.peek_eq at_colon.front]
    decide
  have same : { l with cursor := l.cursor, allowsKey := l.allowsKey || false } = l := by
    rw [Bool.or_false]
  have found : (l.pending.find? fun key => key.level == l.level) = some pending := by
    simp [onlyOne, level, Lexer.level, at_colon.brackets]
  let next : Lexer := { (l.confirmKey pending).pushWidth (.value false) 1 with allowsKey := false }
  have behind : next.cursor = ⟨' ' :: rest, l.cursor.mark.along 1⟩ := by
    show (l.confirmKey pending).cursor.next = _
    rw [cursorKept]
    exact Cursor.next_along at_colon.front (by decide) (by decide)
  have left : next.pending = [] := by
    show (l.confirmKey pending).pending = _
    simp [pendingLeft, onlyOne]
  have fetched : l.step = .ok next := by
    have kept := Lexer.dropStaleKeys_kept onlyOne line near
    rw [at_colon.toMade.step_eq noMark lead (by rw [same, kept]), same,
      l.fetch_colon at_colon.front at_colon.inside at_colon.brackets, Lexer.fetchColon, found]
    rfl
  have running : next.done = false := doneKept.trans at_colon.running
  refine ⟨next, Lexer.advance_of_step fetched running (Lexer.dropStaleKeys_none left), ?_⟩
  exact {
    kinds := by simp [next, Lexer.pushWidth, Lexer.push, kindsMade, kindsBefore]
    count := by simp [next, Lexer.pushWidth, Lexer.push, countMade]
    indents := indentsMade
    brackets := bracketsKept.trans at_colon.brackets
    version := versionKept.trans at_colon.version
    running := running
    front := by rw [behind]
    inside := by rw [behind]; exact Nat.lt_of_lt_of_le at_colon.inside (Nat.le_add_right _ _)
    barred := rfl
    pending := left }

/-- The start of a line right behind the last token. -/
theorem Lexer.AtLine.of_start (made : l.Made kinds opened) (pending : l.pending = []) (front : l.cursor.rest = rest)
    (starts : StartsLine rest) (ready : rest ≠ [] → l.cursor.mark.column = 0 ∧ l.allowsKey = true) :
    l.AtLine kinds opened rest := by
  have cursor : l.cursor = ⟨rest, l.cursor.mark⟩ := by rw [← front]
  -- No newline is crossed, so the column and the permission are those of the start.
  refine { made with pending := pending, noMark := ?_, ready := ⟨l.cursor, false, ?_, front, ?_⟩ }
  · rw [cursor]
    exact starts.peek_ne _ (by decide) (by decide)
  · rw [cursor]
    exact lead_solid starts.solid_head
  · intro more
    rw [Bool.or_false]
    exact ready more

/-- The start of a line behind the newline at the cursor. -/
theorem Lexer.AtLine.of_newline (made : l.Made kinds opened) (pending : l.pending = [])
    (front : l.cursor.rest = '\n' :: rest) (starts : StartsLine rest) : l.AtLine kinds opened rest := by
  have cursor : l.cursor = ⟨'\n' :: rest, l.cursor.mark⟩ := by rw [← front]
  -- The newline is crossed, which puts the cursor at column 0 and allows a key.
  refine { made with pending := pending, noMark := ?_, ready := ⟨⟨rest, l.cursor.mark.below⟩, true, ?_, rfl, ?_⟩ }
  · rw [Cursor.peek_eq front]
    decide
  · rw [cursor]
    exact lead_newline starts.solid_head
  · intro _
    exact ⟨rfl, Bool.or_true _⟩

/-- A step from the space behind a colon to what stands behind it. -/
theorem Lexer.AtValue.step_eq (at_value : l.AtValue kinds rest) (solid : ∀ c ∈ rest.head?, isSolid c = true) :
    l.step = { l with cursor := ⟨rest, l.cursor.mark.along 1⟩ }.fetch := by
  -- The lead is the space, and no key is pending that could be stale behind it.
  have cursor : l.cursor = ⟨' ' :: rest, l.cursor.mark⟩ := by rw [← at_value.front]
  have lead : l.cursor.lead false = ⟨none, ⟨rest, l.cursor.mark.along 1⟩, false⟩ := by
    rw [cursor]
    exact lead_space solid
  have noMark : l.cursor.peek ≠ byteOrderMark := by
    rw [Cursor.peek_eq at_value.front]
    decide
  rw [at_value.toMade.step_eq noMark lead (Lexer.dropStaleKeys_none at_value.pending), Bool.or_false]

/-- A plain value is read with the newline behind it, if there is one, and then the next line starts. -/
theorem readPlain_value (isWord : IsWord word) {cursor : Cursor}
    (front : cursor.rest = word ++ textBehind ended more) :
    (readPlain ⟨false, false, 1⟩ cursor).text = word ∧
      (readPlain ⟨false, false, 1⟩ cursor).cursor.rest = entryText ended more ∧
      (entryText ended more ≠ [] → (readPlain ⟨false, false, 1⟩ cursor).cursor.mark.column = 0 ∧
        (readPlain ⟨false, false, 1⟩ cursor).crossed = true) := by
  -- What is read depends on whether the text goes on behind the word.
  rcases textBehind_cases ended more with ⟨last, rfl⟩ | goesOn
  · rw [readPlain_word 1 isWord front (last ▸ .text) (by simp [last])]
    exact ⟨rfl, last, fun more => absurd rfl more⟩
  · rw [goesOn] at front
    rw [readPlain_word_below isWord front (startsLine_entryText ended more) Nat.one_pos]
    exact ⟨rfl, rfl, fun _ => ⟨rfl, rfl⟩⟩

/-- A plain value is taken with the newline behind it. -/
theorem Lexer.AtValue.advance_plain (at_value : l.AtValue kinds (word ++ textBehind ended more))
    (isWord : IsWord word) :
    ∃ next : Lexer, l.advance = .ok next ∧
      next.AtLine (.scalar .plain word :: kinds) true (entryText ended more) := by
  obtain ⟨first, tail, split⟩ := List.exists_cons_of_ne_nil isWord.written
  have simple : isSimpleCharacter first = true := isWord.all first (by simp [split])
  let started : Lexer := { l with cursor := ⟨word ++ textBehind ended more, l.cursor.mark.along 1⟩ }
  have front : started.cursor.rest = first :: (tail ++ textBehind ended more) := by simp [started, split]
  have solid : ∀ c ∈ (word ++ textBehind ended more).head?, isSolid c = true := by
    obtain ⟨-, -, noBreak, -, noSign, noSpace, -⟩ := plain_of_isSimpleCharacter simple
    simp [split, isSolid, noBreak, noSign, noSpace]
  have inside : 0 < started.column := Nat.lt_of_lt_of_le at_value.inside (Nat.le_add_right _ _)
  let scalar := readPlain ⟨false, false, 1⟩ started.cursor
  let next : Lexer := { started.push (.scalar .plain scalar.text) started.cursor.mark scalar.stop scalar.cursor with
    allowsKey := scalar.crossed }
  have made : started.Made kinds true := at_value.toMade.moved _ l.pending l.allowsKey
  -- The word is read as one that has to be behind the column of the open mapping.
  have context : (⟨started.isFlow, started.isFirstVersion, started.least⟩ : PlainContext) = ⟨false, false, 1⟩ := by
    rw [made.isFlow_eq, made.isFirstVersion_eq, Lexer.least, made.indents]
    rfl
  have fetched : l.step = .ok next := by
    rw [at_value.step_eq solid]
    show started.fetch = _
    rw [started.fetch_word front simple fun column => absurd column (Nat.ne_of_gt inside), Lexer.fetchPlain,
      Lexer.saveKey_barred (l := started) at_value.barred]
    simp only [Bind.bind, Except.bind, context]
    rfl
  have kept : next.dropStaleKeys = .ok next := Lexer.dropStaleKeys_none (l := next) at_value.pending
  refine ⟨next, Lexer.advance_of_step fetched at_value.running kept, ?_⟩
  obtain ⟨text, front, ready⟩ := readPlain_value isWord (rfl : started.cursor.rest = _)
  have taken : next.Made (.scalar .plain scalar.text :: kinds) true := made.push _ _ _ _ _
  rw [text] at taken
  exact Lexer.AtLine.of_start taken at_value.pending front (startsLine_entryText ended more) ready

/-- A value in quotes is taken with its quotes. -/
theorem Lexer.AtValue.advance_quoted {double : Bool} (isWord : IsWord word)
    (at_value : l.AtValue kinds (quoteOf double :: (word ++ quoteOf double :: textBehind ended more))) :
    ∃ next : Lexer, l.advance = .ok next ∧
      next.AtLine (.scalar (WordStyle.quoted double).scalar word :: kinds) true (entryText ended more) := by
  let start : Cursor :=
    ⟨quoteOf double :: (word ++ quoteOf double :: textBehind ended more), l.cursor.mark.along 1⟩
  let started : Lexer := { l with cursor := start }
  have solid : isSolid (quoteOf double) = true := by cases double <;> decide
  have inside : 0 < started.column := Nat.lt_of_lt_of_le at_value.inside (Nat.le_add_right _ _)
  have closed : (textBehind ended more).head? ≠ some '\'' := by
    rcases textBehind_cases ended more with ⟨last, rfl⟩ | goesOn
    · simp [last]
    · simp [goesOn]
  have read : readQuoted double started.cursor =
      .ok (word, ⟨textBehind ended more, start.mark.along (word.length + 2)⟩) :=
    readQuoted_word double isWord.all rfl closed
  let next : Lexer := { started.push (.scalar (WordStyle.quoted double).scalar word) start.mark
    (start.mark.along (word.length + 2)) ⟨textBehind ended more, start.mark.along (word.length + 2)⟩ with
    allowsKey := false }
  have fetched : l.step = .ok next := by
    rw [at_value.step_eq (by simpa using solid)]
    show started.fetch = _
    rw [started.fetch_quote double rfl inside, Lexer.fetchQuoted,
      Lexer.saveKey_barred (l := started) at_value.barred]
    simp only [Bind.bind, Except.bind, read]
    rfl
  have kept : next.dropStaleKeys = .ok next := Lexer.dropStaleKeys_none (l := next) at_value.pending
  refine ⟨next, Lexer.advance_of_step fetched at_value.running kept, ?_⟩
  have made : next.Made (.scalar (WordStyle.quoted double).scalar word :: kinds) true :=
    (at_value.toMade.moved start l.pending l.allowsKey).push _ _ _ _ _
  -- The newline behind the quotes is not taken with them: the next step passes over it.
  rcases textBehind_cases ended more with ⟨last, rfl⟩ | goesOn
  · exact Lexer.AtLine.of_start made at_value.pending last (startsLine_entryText ended [])
      fun more => absurd rfl more
  · exact Lexer.AtLine.of_newline made at_value.pending goesOn (startsLine_entryText ended more)

/-- The kinds of the tokens up to the end of an entry, the last one first. -/
def kindsBehind (opened : Bool) (e : EntryLine) (kinds : List TokenKind) : List TokenKind :=
  .scalar e.style.scalar e.value :: kindsBefore opened e.key kinds

/-- An entry is taken in three advances: its key, its colon and its value. -/
theorem Lexer.AtLine.take_entry {e : EntryLine} (at_line : l.AtLine kinds opened (entryText ended (e :: more))) :
    ∃ next : Lexer, (∀ fuel, Lexer.run (fuel + 3) l = Lexer.run fuel next) ∧
      next.AtLine (kindsBehind opened e kinds) true (entryText ended more) := by
  -- One advance for each of the three, the last one by the style of the value.
  have step : ∀ {l next : Lexer}, l.done = false → l.advance = .ok next → ∀ fuel,
      Lexer.run (fuel + 1) l = Lexer.run fuel next := by
    intro l next running advance fuel
    rw [Lexer.run, if_neg (by simp [running]), advance]
  have split : entryText ended (e :: more) =
      e.key ++ ':' :: ' ' :: (e.style.spell e.value ++ textBehind ended more) := by
    simp [entryText, EntryLine.line]
  have starts := startsLine_entryText ended (e :: more)
  rw [split] at at_line starts
  obtain ⟨atColon, toColon, colon⟩ := at_line.advance e.isKeyWord e.short starts
  obtain ⟨atValue, toValue, value⟩ := colon.advance
  obtain ⟨next, toNext, line⟩ : ∃ next : Lexer, atValue.advance = .ok next ∧
      next.AtLine (kindsBehind opened e kinds) true (entryText ended more) := by
    cases style : e.style with
    | plain =>
      rw [style] at value
      have taken := value.advance_plain e.isWord
      rwa [kindsBehind, style]
    | quoted double =>
      rw [style] at value
      have taken := Lexer.AtValue.advance_quoted e.isWord (by simpa [WordStyle.spell] using value)
      rwa [kindsBehind, style]
  refine ⟨next, fun fuel => ?_, line⟩
  rw [step at_line.running toColon, step colon.running toValue, step value.running toNext]

/-- Leaving out comments leaves out their kinds. -/
theorem kinds_withoutComments (tokens : List Token) :
    (withoutComments tokens).map (·.kind) = (tokens.map (·.kind)).filter (· != .comment) := by
  -- Comments are told by their kind alone.
  rw [withoutComments, List.filter_map]
  rfl

/-- At the end of the text the mapping and the stream are closed. -/
theorem Lexer.AtLine.take_end (at_line : l.AtLine kinds true []) (fuel : Nat) :
    (Lexer.run (fuel + 2) l).failure = none ∧
      (Lexer.run (fuel + 2) l).tokens.map (·.kind) =
        (kinds.reverse ++ [TokenKind.blockEnd, .streamEnd]).filter (· != .comment) := by
  obtain ⟨c, crossed, lead, front, -⟩ := at_line.ready
  -- The mapping ends where the text does, and the stream with it: two tokens without characters.
  let started : Lexer := { l with allowsKey := l.allowsKey || crossed, cursor := c }
  let closed : Lexer := { started.pushEmpty .blockEnd with indents := [] }
  let next : Lexer := { closed.pushEmpty .streamEnd with allowsKey := false, pending := [], done := true }
  have made : started.Made kinds true := at_line.toMade.moved c l.pending _
  have unwound : started.unwindAll = closed := by
    rw [Lexer.unwindAll, made.isFlow_eq, made.indents]
    rfl
  have advanced : l.advance = .ok next := by
    rw [Lexer.advance, at_line.toMade.step_eq at_line.noMark lead (Lexer.dropStaleKeys_none at_line.pending),
      started.fetch_end front, Lexer.fetchEnd, unwound, Lexer.dropKey,
      Lexer.dropKeys_none (l := closed) at_line.pending]
    rfl
  have finished : Lexer.run (fuel + 2) l = ⟨withoutComments next.entries.reverse, none⟩ := by
    rw [Lexer.run, if_neg (by simp [at_line.running]), advanced]
    rfl
  rw [finished]
  refine ⟨rfl, ?_⟩
  rw [kinds_withoutComments]
  simp [next, closed, started, Lexer.pushEmpty, Lexer.push, at_line.kinds]

/-- The entries that follow the first one, and the end. -/
theorem Lexer.AtLine.run_entries {entries : List EntryLine} (at_line : l.AtLine kinds true (entryText ended entries))
    (fuel : Nat) :
    (Lexer.run (3 * entries.length + (fuel + 2)) l).failure = none ∧
      (Lexer.run (3 * entries.length + (fuel + 2)) l).tokens.map (·.kind) =
        (kinds.reverse ++ (entries.flatMap EntryLine.kinds ++ [TokenKind.blockEnd, .streamEnd])).filter
          (· != .comment) := by
  -- Induction on the entries, each of which takes three advances.
  induction entries generalizing l kinds with
  | nil => simpa using at_line.take_end fuel
  | cons e entries ih =>
    obtain ⟨next, run, line⟩ := at_line.take_entry
    have size : 3 * (e :: entries).length + (fuel + 2) = 3 * entries.length + (fuel + 2) + 3 := by
      simp only [List.length_cons]
      omega
    rw [size, run]
    simpa [kindsBehind, kindsBefore, EntryLine.kinds] using ih line

/-- A line takes more characters than its entry has tokens. -/
theorem length_le_entryText (ended : Bool) (entries : List EntryLine) :
    3 * entries.length ≤ (entryText ended entries).length := by
  -- A colon, a space and the newline in front are three characters besides the key and the value.
  have behind : ∀ more : List EntryLine, 3 * more.length ≤ (textBehind ended more).length := by
    intro more
    induction more with
    | nil => simp
    | cons e more ih =>
      simp only [textBehind, EntryLine.line, List.length_cons, List.length_append] at ih ⊢
      omega
  cases entries with
  | nil => simp
  | cons e more =>
    have := behind more
    have := List.length_pos_iff.mpr e.named
    simp only [entryText, EntryLine.line, List.length_cons, List.length_append]
    omega

/-- The tokens of a text of entries: a mapping with a key and a value for each of them. -/
theorem tokensOf_entryText (ended : Bool) {entries : List EntryLine} (some_entry : entries ≠ []) :
    (tokensOf (entryText ended entries)).failure = none ∧
      (tokensOf (entryText ended entries)).tokens.map (·.kind) =
        .blockMappingStart :: (entries.flatMap EntryLine.kinds ++ [.blockEnd, .streamEnd]) := by
  obtain ⟨e, more, rfl⟩ := List.exists_cons_of_ne_nil some_entry
  have starts := startsLine_entryText ended (e :: more)
  have start : (Lexer.ofText (entryText ended (e :: more))).AtLine [] false (entryText ended (e :: more)) :=
    Lexer.AtLine.of_start ⟨rfl, rfl, rfl, rfl, rfl, rfl⟩ rfl rfl starts fun _ => ⟨rfl, rfl⟩
  -- The first entry is taken apart, since it opens the mapping.
  obtain ⟨next, run, line⟩ := start.take_entry
  obtain ⟨fuel, size⟩ : ∃ fuel, (entryText ended (e :: more)).length + 2 = 3 * more.length + (fuel + 2) + 3 := by
    have room := length_le_entryText ended (e :: more)
    refine ⟨(entryText ended (e :: more)).length - 3 * more.length - 3, ?_⟩
    simp only [List.length_cons] at room
    omega
  -- No token of an entry is a comment, so that leaving these out leaves all of them.
  have kept : (entries : List EntryLine) → (entries.flatMap EntryLine.kinds).filter (· != .comment) =
      entries.flatMap EntryLine.kinds := by
    intro entries
    rw [List.filter_eq_self]
    intro kind inside
    obtain ⟨e, -, isKind⟩ := List.mem_flatMap.mp inside
    simp only [EntryLine.kinds, List.mem_cons, List.not_mem_nil, or_false] at isKind
    rcases isKind with rfl | rfl | rfl | rfl
    all_goals rfl
  have rest := line.run_entries fuel
  rw [tokensOf, size, run]
  refine ⟨rest.1, ?_⟩
  rw [rest.2]
  simp [kindsBehind, kindsBefore, EntryLine.kinds, List.filter_append, kept]

end PlanLint
