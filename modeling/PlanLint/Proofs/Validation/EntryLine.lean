import Mathlib.Data.Bool.AllAny
import PlanLint.Proofs.Validation.Repeated
import PlanLint.Proofs.Yaml.Node.EntryLine

/-! What a text is parsed to whose lines are entries. -/

namespace PlanLint

/-- What an entry stands for: its key is a text, and its value is read. -/
structure EntryLine.ReadsAs (e : EntryLine) (value : Value) : Prop where
  key : Tag.ofPlain false e.key = .core .str
  value : ∀ start,
    scalarValue true (Parser.scalarTag e.style.scalar e.value) e.style.scalar e.value false start = .ok value

/-- The key of an entry as it is in the document. -/
def EntryLine.name (e : EntryLine) : Value := .text (String.ofList e.key)

/-- Entries with one more, unless its key is there already. -/
def keepFirst (value : EntryLine → Value) (read : Entries) (e : EntryLine) : Entries :=
  if (valueAtKey? read e.name).isSome then read else read ++ [(e.name, value e)]

/-- The entries that are read allow those that follow: repeated keys are allowed, or there are none. -/
def MayFollow (allows : Bool) (read : Entries) (entries : List EntryLine) : Prop :=
  allows = true ∨ ((entries.map (·.key)).Nodup ∧ ∀ e ∈ entries, valueAtKey? read e.name = none)

variable {value : EntryLine → Value} {entries : List EntryLine} {pairs : List (Node × Node)} {allows : Bool}

/-- The keys of entries are texts, and they are the same where their texts are. -/
theorem valueAtKey?_append (read : Entries) (e other : EntryLine) (v : Value) :
    valueAtKey? (read ++ [(e.name, v)]) other.name =
      (valueAtKey? read other.name).or (if e.key = other.key then some v else none) := by
  -- The new entry is the last one, so it counts if no other has its key.
  unfold valueAtKey?
  rw [List.find?_append, Option.map_or]
  by_cases same : e.key = other.key
  · simp [EntryLine.name, Value.sameKey, same]
  · simp [EntryLine.name, Value.sameKey, same, String.ofList_inj]

/-- An entry is settled as one more entry if its key is new, and as none otherwise. -/
theorem settle_keepFirst (value : EntryLine → Value) (started mark : Mark) {read : Entries} {e : EntryLine}
    (may : MayFollow allows read (e :: entries)) :
    (addEntry started mark read e.name (value e)).settle allows = .ok (keepFirst value read e) := by
  rw [settle_addEntry, Settled.addEntry, keepFirst]
  cases found : valueAtKey? read e.name with
  | none => rfl
  | some original =>
    -- The key is there already, so repeated keys are allowed.
    rcases may with rfl | ⟨-, new⟩
    · rfl
    · simp [new e List.mem_cons_self] at found

/-- Behind one entry the others may follow. -/
theorem MayFollow.keepFirst (value : EntryLine → Value) {read : Entries} {e : EntryLine}
    (may : MayFollow allows read (e :: entries)) :
    MayFollow allows (keepFirst value read e) entries := by
  rcases may with allowed | ⟨distinct, new⟩
  · exact .inl allowed
  · -- No later entry has the key that was just added, since no key is repeated.
    refine .inr ⟨(List.nodup_cons.mp distinct).2, fun other member => ?_⟩
    have different : e.key ≠ other.key := by
      intro same
      exact (List.nodup_cons.mp distinct).1 (List.mem_map.mpr ⟨other, member, same.symm⟩)
    have here := new e List.mem_cons_self
    have there := new other (List.mem_cons_of_mem _ member)
    rw [PlanLint.keepFirst, here]
    simp [valueAtKey?_append, there, different]

/-- Behind a reading that is settled with a value, the next one is. -/
theorem settle_bind_of_ok {α β : Type} {o : Outcome α} {a : α} (settled : o.settle allows = .ok a)
    (next : α → Outcome β) : (o >>= next).settle allows = (next a).settle allows := by
  -- Settling goes through a bind.
  rw [Outcome.settle_bind, settled]
  rfl

/-- The entries of a mapping are settled one after the other. -/
theorem settle_pairs (isPairs : List.Forall₂ Parser.PairsOf entries pairs)
    (reads : ∀ e ∈ entries, e.ReadsAs (value e)) (room : Nat) (start : Mark) (read : Entries)
    (may : MayFollow allows read entries) :
    (ownEntries true room start false false pairs read).settle allows =
      .ok (entries.foldl (keepFirst value) read) := by
  -- Induction on the entries, behind those that are read.
  induction isPairs generalizing read with
  | nil => cases allows <;> rfl
  | @cons e pair entries pairs isPair _ ih =>
    obtain ⟨⟨at_, isKey⟩, start', isValue⟩ := isPair
    obtain ⟨key, node⟩ := pair
    obtain rfl : key = _ := isKey
    obtain rfl : node = _ := isValue
    have first := reads e List.mem_cons_self
    have rest := ih (fun other member => reads other (List.mem_cons_of_mem _ member)) _ (may.keepFirst value)
    have added := settle_keepFirst value start at_ may
    have named : scalarValue true (.core .str) .plain e.key false at_ = .ok e.name := rfl
    have noMerge : (!false && Node.isMerge (.scalar (.core .str) .plain e.key false at_)) = false := rfl
    have noValue : (if !false && (Tag.core .str == .value) then Tag.core .str else .core .str) = .core .str := rfl
    rw [ownEntries, first.key, noMerge]
    simp only [noValue, named, Node.start]
    have nameSettled : (Outcome.ofResult (.ok e.name)).settle allows = .ok e.name := rfl
    have keySettled : (keyOrFail start at_ e.name.asKey?).settle allows = .ok e.name := rfl
    have valueSettled : (Node.value true room (.scalar (Parser.scalarTag e.style.scalar e.value) e.style.scalar
        e.value false start')).settle allows = .ok (value e) := by
      rw [Node.value, first.value]
      rfl
    rw [if_neg (by simp), settle_bind_of_ok nameSettled, settle_bind_of_ok keySettled,
      settle_bind_of_ok valueSettled, settle_bind_of_ok added]
    exact rest

/-- No entry merges another mapping. -/
theorem mergedMappings_eq (isPairs : List.Forall₂ Parser.PairsOf entries pairs)
    (reads : ∀ e ∈ entries, e.ReadsAs (value e)) (isCurrent : Bool) (room : Nat) (start : Mark) :
    mergedMappings isCurrent room start false false pairs = .known [] := by
  induction isPairs with
  | nil => rfl
  | @cons e pair entries pairs isPair _ ih =>
    obtain ⟨⟨at_, isKey⟩, -⟩ := isPair
    obtain ⟨key, node⟩ := pair
    -- A key that is read as a text is not the sign that merges.
    obtain rfl : key = _ := isKey
    have plain : Node.isMerge (.scalar (.ofPlain false e.key) .plain e.key false at_) = false := by
      rw [(reads e List.mem_cons_self).key]
      rfl
    rw [mergedMappings, if_pos (by simp [plain])]
    exact ih fun other member => reads other (List.mem_cons_of_mem _ member)

/-- The value of a mapping of entries. -/
theorem settle_mapping (isPairs : List.Forall₂ Parser.PairsOf entries pairs)
    (reads : ∀ e ∈ entries, e.ReadsAs (value e)) (room : Nat) (start : Mark) (may : MayFollow allows [] entries) :
    (Node.value true (room + 1) (.mapping (.core .map) pairs start)).settle allows =
      .ok (.mapping (entries.foldl (keepFirst value) [])) := by
  rw [Node.value, mergedMappings_eq isPairs reads]
  have none_merged : (Outcome.known ([] : List Entries)).settle allows = .ok [] := by cases allows <;> rfl
  -- Nothing is merged in, so the mapping is its own entries.
  rw [settle_bind_of_ok none_merged, settle_bind_of_ok (settle_pairs isPairs reads room start [] may)]
  rfl

/-- A character of the line of an entry. -/
def isEntryCharacter (c : Char) : Bool := isSimpleCharacter c || [':', ' ', '"', '\''].contains c

/-- The line holds no others. -/
theorem EntryLine.all_line (e : EntryLine) : ∀ c ∈ e.line, isEntryCharacter c = true := by
  have word : ∀ w : List Char, IsWord w → ∀ c ∈ w, isEntryCharacter c = true := by
    intro w isWord c inside
    simp [isEntryCharacter, isWord.all c inside]
  have quote : ∀ double, isEntryCharacter (quoteOf double) = true := by decide
  have spelled : ∀ c ∈ e.style.spell e.value, isEntryCharacter c = true := by
    cases e.style with
    | plain => exact word _ e.isWord
    | quoted double =>
      intro c inside
      simp only [WordStyle.spell, List.mem_cons, List.mem_append, List.not_mem_nil, or_false] at inside
      rcases inside with rfl | inside | rfl
      · exact quote double
      · exact word _ e.isWord c inside
      · exact quote double
  -- The line is the key, a colon, a space and the value as it is spelled.
  intro c inside
  simp only [EntryLine.line, List.mem_append, List.mem_cons] at inside
  rcases inside with inside | rfl | rfl | inside
  · exact word _ e.isKeyWord c inside
  · decide
  · decide
  · exact spelled c inside

/-- It ends nowhere before its end. -/
theorem EntryLine.single_line (e : EntryLine) : '\n' ∉ e.line ∧ '\r' ∉ e.line := by
  -- Neither of the two is a character of entries.
  constructor
  · intro inside
    exact absurd (e.all_line '\n' inside) (by decide)
  · intro inside
    exact absurd (e.all_line '\r' inside) (by decide)

/-- A text of entries holds newlines besides. -/
theorem all_entryText (ended : Bool) (entries : List EntryLine) :
    ∀ c ∈ entryText ended entries, c = '\n' ∨ isEntryCharacter c = true := by
  -- Induction on the entries behind the first one: each comes behind a newline.
  have behind : ∀ more : List EntryLine, ∀ c ∈ textBehind ended more, c = '\n' ∨ isEntryCharacter c = true := by
    intro more
    induction more with
    | nil => cases ended <;> simp [textBehind]
    | cons e more ih =>
      intro c inside
      rw [textBehind, List.mem_cons, List.mem_append] at inside
      rcases inside with rfl | inside | inside
      · exact .inl rfl
      · exact .inr (e.all_line c inside)
      · exact ih c inside
  cases entries with
  | nil => simp [entryText]
  | cons e more =>
    intro c inside
    rcases List.mem_append.mp inside with inside | inside
    · exact .inr (e.all_line c inside)
    · exact behind more c inside

/-- The characters of entries are acceptable. -/
theorem isAcceptable_of_isEntryCharacter {c : Char} (known : isEntryCharacter c = true) : isAcceptable c = true := by
  -- The characters are those of words and four signs.
  rcases Bool.or_eq_true _ _ ▸ known with simple | sign
  · exact of_isSimpleCharacter (P := fun c => isAcceptable c = true) (by decide +kernel) simple
  · have all : ∀ c ∈ [':', ' ', '"', '\''], isAcceptable c = true := List.all_iff_forall_prop.mp rfl
    exact all c (List.contains_iff_mem.mp sign)

/-- A text of acceptable characters is accepted. -/
theorem firstUnacceptable?_eq_none {text : List Char} (all : ∀ c ∈ text, isAcceptable c = true) (position : Nat) :
    firstUnacceptable? position text = none := by
  -- Induction on the text: the search passes each character.
  induction text generalizing position with
  | nil => rfl
  | cons c text ih =>
    rw [firstUnacceptable?, if_pos (all c List.mem_cons_self)]
    exact ih (fun d inside => all d (List.mem_cons_of_mem _ inside)) _

/-- A text of entries is parsed to a document in which each key has its first value, unless a key is repeated
that may not be. -/
theorem parseDocument_entryText (ended : Bool) (some_entry : entries ≠ [])
    (reads : ∀ e ∈ entries, e.ReadsAs (value e))
    (may : MayFollow allows [] entries) (lines : List Line) :
    parseDocument (entryText ended entries) lines allows =
      .ok ⟨some (entries.foldl (keepFirst value) []), []⟩ := by
  obtain ⟨e, more, rfl⟩ := List.exists_cons_of_ne_nil some_entry
  have accepted : firstUnacceptable? 0 (entryText ended (e :: more)) = none := by
    apply firstUnacceptable?_eq_none
    intro c inside
    rcases all_entryText ended (e :: more) c inside with rfl | known
    · decide
    · exact isAcceptable_of_isEntryCharacter known
  have written : (entryText ended (e :: more)).all isBlank = false := by
    obtain ⟨first, tail, split⟩ := List.exists_cons_of_ne_nil e.named
    have spoken : isBlank first = false :=
      of_isSimpleCharacter (P := fun c => isBlank c = false) (by decide +kernel)
        (e.isKeyWord.all first (by simp [split]))
    simp [entryText, EntryLine.line, split, spoken]
  -- The parts are put together: the tokens give pairs, and the pairs give the document.
  obtain ⟨pairs, start, isPairs, parsed⟩ := parseTokens_entryText ended some_entry
  have settled := settle_mapping isPairs reads 199 start may
  rw [parseDocument, written, readText, accepted, parsed]
  simp only [deepestNesting, Bool.false_eq_true, if_false]
  rw [settled]

end PlanLint
