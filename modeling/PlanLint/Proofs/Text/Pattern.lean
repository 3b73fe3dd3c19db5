import PlanLint.Text.Blank
import PlanLint.Text.Digit

/-! Patterns, and the ways in which a search that backtracks reads a text with them. -/

namespace PlanLint

/-- The kinds of characters that patterns have a name for. -/
inductive CharKind where
  | blank
  | digit
deriving DecidableEq, Repr

/-- The characters of a kind. -/
def CharKind.holds : CharKind → Char → Bool
  | .blank => isBlank
  | .digit => isDecimalDigit

/-- The pattern of one character of a kind. -/
def CharKind.source : CharKind → List Char
  | .blank => ['\\', 's']
  | .digit => ['\\', 'd']

/-- A pattern for the beginning of a text. Groups have numbers. -/
inductive Pattern where
  | start
  | char (c : Char)
  | star (kind : CharKind)
  | plus (kind : CharKind)
  | group (number : Nat) (body : Pattern)
  | optional (body : Pattern)
  | choice (first second : Pattern)
  | seq (first second : Pattern)
deriving DecidableEq, Repr

/-- The characters that mean something else in a pattern unless a backslash stands before them. -/
def patternSigns : List Char := "\\.^$*+?()[]|\x7b\x7d".toList

/-- A pattern as it is written. Choices are written inside groups. -/
def Pattern.source : Pattern → List Char
  | .start => ['^']
  | .char c => if patternSigns.contains c then ['\\', c] else [c]
  | .star kind => kind.source ++ ['*']
  | .plus kind => kind.source ++ ['+']
  | .group _ body => '(' :: body.source ++ [')']
  | .optional body => body.source ++ ['?']
  | .choice first second => first.source ++ '|' :: second.source
  | .seq first second => first.source ++ second.source

/-- How far a text is read, and what the groups have caught, the latest first. -/
structure Reading where
  read : List Char
  rest : List Char
  caught : List (Nat × List Char)
deriving DecidableEq, Repr

/-- The ways to read a run of characters of a kind, the longest first. -/
def runWays (kind : CharKind) (read : List Char) (caught : List (Nat × List Char)) : List Char → List Reading
  | [] => [⟨read, [], caught⟩]
  | c :: rest =>
    if kind.holds c then runWays kind (read ++ [c]) caught rest ++ [⟨read, c :: rest, caught⟩]
    else [⟨read, c :: rest, caught⟩]

/-- A group catches what was read since it was entered. -/
def Reading.catching (number : Nat) (before after : Reading) : Reading :=
  { after with caught := (number, after.read.drop before.read.length) :: after.caught }

/-- The ways to read on with a pattern, in the order in which they are tried: the first choice before the second,
something before nothing, and more before less. -/
def Pattern.ways : Pattern → Reading → List Reading
  | .start, reading => if reading.read.isEmpty then [reading] else []
  | .char wanted, reading =>
    match reading.rest with
    | [] => []
    | c :: rest => if c == wanted then [{ reading with read := reading.read ++ [c], rest }] else []
  | .star kind, reading => runWays kind reading.read reading.caught reading.rest
  | .plus kind, reading =>
    match reading.rest with
    | [] => []
    | c :: rest => if kind.holds c then runWays kind (reading.read ++ [c]) reading.caught rest else []
  | .group number body, reading => (body.ways reading).map (reading.catching number)
  | .optional body, reading => body.ways reading ++ [reading]
  | .choice first second, reading => first.ways reading ++ second.ways reading
  | .seq first second, reading => (first.ways reading).flatMap second.ways

attribute [simp] Pattern.ways

/-- The way that a search settles on: the first one. -/
def Pattern.first (pattern : Pattern) (text : List Char) : Option Reading := (pattern.ways ⟨[], text, []⟩).head?

/-- What a group has caught last, if anything. -/
def Reading.group (number : Nat) (reading : Reading) : Option (List Char) := reading.caught.lookup number

/-- The first way to read on with a pattern such that a goal is met behind it. -/
def Pattern.leads {α : Type} (pattern : Pattern) (goal : Reading → Option α) (reading : Reading) : Option α :=
  (pattern.ways reading).findSome? goal

/-- The texts of a pattern. -/
def Pattern.Spells : Pattern → List Char → Prop
  | .start, text => text = []
  | .char c, text => text = [c]
  | .star kind, text => ∀ c ∈ text, kind.holds c = true
  | .plus kind, text => text ≠ [] ∧ ∀ c ∈ text, kind.holds c = true
  | .group _ body, text => body.Spells text
  | .optional body, text => body.Spells text ∨ text = []
  | .choice first second, text => first.Spells text ∨ second.Spells text
  | .seq first second, text => ∃ front back, first.Spells front ∧ second.Spells back ∧ text = front ++ back

/-- A reading goes on from another one by a text. -/
def Reading.Advances (before after : Reading) (text : List Char) : Prop :=
  after.read = before.read ++ text ∧ before.rest = text ++ after.rest

section Spells

variable {before between after : Reading} {front back text : List Char}

theorem Reading.Advances.refl (reading : Reading) : reading.Advances reading [] := ⟨by simp, by simp⟩

theorem Reading.Advances.trans (near : before.Advances between front) (far : between.Advances after back) :
    before.Advances after (front ++ back) := by
  -- What is read adds up, and what is left is left over from the second part.
  refine ⟨?_, ?_⟩
  · rw [far.1, near.1, List.append_assoc]
  · rw [near.2, far.2, List.append_assoc]

/-- One character is read, and then as the rest says. -/
theorem Reading.Advances.cons {c : Char} {rest : List Char} (there : before.rest = c :: rest)
    (moved : Reading.Advances ⟨before.read ++ [c], rest, before.caught⟩ after text) :
    before.Advances after (c :: text) := by
  -- The character moves from what is left to what is read.
  refine ⟨?_, ?_⟩
  · rw [moved.1, List.append_assoc, List.singleton_append]
  · rw [there, List.cons_append]
    exact congrArg (c :: ·) moved.2

/-- Each way to read a run reads characters of the kind. -/
theorem exists_run_of_mem_runWays {kind : CharKind} {read rest : List Char} {caught : List (Nat × List Char)}
    (way : after ∈ runWays kind read caught rest) :
    ∃ run, (∀ c ∈ run, kind.holds c = true) ∧ Reading.Advances ⟨read, rest, caught⟩ after run := by
  -- The ways that read more come first, and those are the ways of the shorter rest.
  induction rest generalizing read with
  | nil =>
    obtain rfl : after = ⟨read, [], caught⟩ := by simpa [runWays] using way
    exact ⟨[], by simp, .refl _⟩
  | cons c rest ih =>
    rw [runWays] at way
    split at way
    · rename_i holds
      rcases List.mem_append.mp way with longer | here
      · obtain ⟨run, all, moved⟩ := ih longer
        exact ⟨c :: run, List.forall_mem_cons.mpr ⟨holds, all⟩, .cons rfl moved⟩
      · obtain rfl := List.mem_singleton.mp here
        exact ⟨[], by simp, .refl _⟩
    · obtain rfl := List.mem_singleton.mp way
      exact ⟨[], by simp, .refl _⟩

/-- Each way to read on with a pattern reads a text of the pattern. -/
theorem Pattern.spells_of_mem_ways {pattern : Pattern} (way : after ∈ pattern.ways before) :
    ∃ text, pattern.Spells text ∧ before.Advances after text := by
  -- One case for each form of patterns, with the search started anywhere in the text.
  induction pattern generalizing before after with
  | start =>
    have same : after = before := by
      rw [ways] at way
      split at way
      · exact List.mem_singleton.mp way
      · simp at way
    exact ⟨[], rfl, same ▸ .refl _⟩
  | char wanted =>
    rw [ways] at way
    split at way
    · simp at way
    · rename_i c rest there
      split at way
      · rename_i same
        obtain rfl := beq_iff_eq.mp same
        obtain rfl := List.mem_singleton.mp way
        exact ⟨[c], rfl, rfl, there⟩
      · simp at way
  | star kind =>
    obtain ⟨run, all, moved⟩ := exists_run_of_mem_runWays way
    exact ⟨run, all, moved⟩
  | plus kind =>
    rw [ways] at way
    split at way
    · simp at way
    · rename_i c rest there
      split at way
      · rename_i holds
        -- A run with one character in front, which is what is asked for first.
        obtain ⟨run, all, moved⟩ := exists_run_of_mem_runWays way
        exact ⟨c :: run, ⟨List.cons_ne_nil _ _, List.forall_mem_cons.mpr ⟨holds, all⟩⟩, .cons there moved⟩
      · simp at way
  | group number body ih =>
    obtain ⟨inner, member, rfl⟩ := List.mem_map.mp way
    -- What a group catches changes neither what is read nor the rest.
    obtain ⟨text, spelled, moved⟩ := ih member
    exact ⟨text, spelled, moved⟩
  | optional body ih =>
    rcases List.mem_append.mp way with some_ | none_
    · obtain ⟨text, spelled, moved⟩ := ih some_
      exact ⟨text, .inl spelled, moved⟩
    · exact ⟨[], .inr rfl, List.mem_singleton.mp none_ ▸ .refl _⟩
  | choice first second ihFirst ihSecond =>
    rcases List.mem_append.mp way with early | late
    · obtain ⟨text, spelled, moved⟩ := ihFirst early
      exact ⟨text, .inl spelled, moved⟩
    · obtain ⟨text, spelled, moved⟩ := ihSecond late
      exact ⟨text, .inr spelled, moved⟩
  | seq first second ihFirst ihSecond =>
    obtain ⟨between, near, far⟩ := List.mem_flatMap.mp way
    obtain ⟨front, spelled, moved⟩ := ihFirst near
    obtain ⟨back, also, further⟩ := ihSecond far
    exact ⟨front ++ back, ⟨front, back, spelled, also, rfl⟩, moved.trans further⟩

/-- What a search reads is a text of the pattern that the whole text begins with. -/
theorem Pattern.spells_of_first {pattern : Pattern} (found : pattern.first text = some after) :
    pattern.Spells after.read ∧ text = after.read ++ after.rest := by
  -- The first way is one of the ways, and nothing was read before it.
  obtain ⟨word, spelled, moved, split⟩ := spells_of_mem_ways (List.mem_of_head? found)
  rw [List.nil_append] at moved
  exact ⟨moved ▸ spelled, moved ▸ split⟩

end Spells

section Leads

variable {α : Type} {goal : Reading → Option α} {reading : Reading} {kind : CharKind} {first second body : Pattern}
  {read rest run : List Char} {caught : List (Nat × List Char)} {c wanted : Char}

/-- The way that a search settles on is the first that meets the goal of having read. -/
theorem Pattern.first_eq (pattern : Pattern) (text : List Char) :
    pattern.first text = pattern.leads some ⟨[], text, []⟩ := by
  -- The goal is met by the very first way.
  unfold first leads
  cases pattern.ways ⟨[], text, []⟩ <;> rfl

theorem Pattern.leads_start : Pattern.start.leads goal ⟨[], rest, caught⟩ = goal ⟨[], rest, caught⟩ := by
  -- The pattern for the start has one way where nothing has been read, and it reads nothing.
  simp [leads, ways]

theorem Pattern.leads_char_nil : (Pattern.char wanted).leads goal ⟨read, [], caught⟩ = none := rfl

theorem Pattern.leads_char_cons : (Pattern.char wanted).leads goal ⟨read, c :: rest, caught⟩ =
    if c = wanted then goal ⟨read ++ [c], rest, caught⟩ else none := by
  -- There is one way if the character is the one wanted, and none otherwise.
  by_cases same : c = wanted
  · simp [leads, ways, same]
  · simp [leads, ways, same]

theorem Pattern.leads_group {number : Nat} :
    (Pattern.group number body).leads goal reading =
      body.leads (fun after => goal (reading.catching number after)) reading := by
  -- The ways of a group are those of its body, with the group caught.
  rw [leads, ways, List.findSome?_map]
  rfl

theorem Pattern.leads_optional :
    (Pattern.optional body).leads goal reading = (body.leads goal reading).or (goal reading) := by
  -- The ways of the body are tried before the one that reads nothing.
  simp [leads, ways, List.findSome?_append]

theorem Pattern.leads_choice : (Pattern.choice first second).leads goal reading =
    (first.leads goal reading).or (second.leads goal reading) := by
  -- The ways of the first pattern are tried before those of the second.
  simp [leads, ways, List.findSome?_append]

theorem Pattern.leads_seq :
    (Pattern.seq first second).leads goal reading = first.leads (second.leads goal) reading := by
  -- The goal behind the first is a way of the second that meets the goal.
  simp only [leads, ways]
  induction first.ways reading with
  | nil => rfl
  | cons way ways ih =>
    rw [List.flatMap_cons, List.findSome?_append, ih, List.findSome?_cons, ← leads]
    cases second.leads goal way <;> rfl

/-- A run is read to its end if the goal is met there. -/
theorem findSome?_runWays (all : ∀ c ∈ run, kind.holds c = true) (stops : rest.head?.any kind.holds = false)
    (met : (goal ⟨read ++ run, rest, caught⟩).isSome = true) :
    (runWays kind read caught (run ++ rest)).findSome? goal = goal ⟨read ++ run, rest, caught⟩ := by
  -- The longest way is tried first, so the shorter ones do not matter.
  induction run generalizing read with
  | nil =>
    rw [List.append_nil, List.nil_append]
    cases rest with
    | nil => simp [runWays]
    | cons c rest =>
      have other : kind.holds c = false := by simpa using stops
      simp [runWays, other]
  | cons c run ih =>
    obtain ⟨holds, all⟩ := List.forall_mem_cons.mp all
    have whole : read ++ c :: run = read ++ [c] ++ run := by simp
    rw [whole] at met ⊢
    rw [List.cons_append, runWays, if_pos holds, List.findSome?_append, ih all met]
    exact Option.or_of_isSome met

theorem Pattern.leads_star (kind : CharKind) (all : ∀ c ∈ run, kind.holds c = true)
    (stops : rest.head?.any kind.holds = false) (met : (goal ⟨read ++ run, rest, caught⟩).isSome = true) :
    (Pattern.star kind).leads goal ⟨read, run ++ rest, caught⟩ = goal ⟨read ++ run, rest, caught⟩ :=
  findSome?_runWays all stops met

theorem Pattern.leads_plus (kind : CharKind) (nonempty : run ≠ []) (all : ∀ c ∈ run, kind.holds c = true)
    (stops : rest.head?.any kind.holds = false) (met : (goal ⟨read ++ run, rest, caught⟩).isSome = true) :
    (Pattern.plus kind).leads goal ⟨read, run ++ rest, caught⟩ = goal ⟨read ++ run, rest, caught⟩ := by
  -- Behind its first character it is read like a run that may be empty.
  obtain ⟨c, run, rfl⟩ := List.exists_cons_of_ne_nil nonempty
  obtain ⟨holds, all⟩ := List.forall_mem_cons.mp all
  have whole : read ++ c :: run = read ++ [c] ++ run := by simp
  rw [whole] at met ⊢
  simp only [leads, ways, List.cons_append, if_pos holds]
  exact findSome?_runWays all stops met

/-- Where no character of the kind stands, there is nothing to read. -/
theorem Pattern.leads_plus_none (kind : CharKind) (stops : rest.head?.any kind.holds = false) :
    (Pattern.plus kind).leads goal ⟨read, rest, caught⟩ = none := by
  -- One character at least has to be read.
  cases rest with
  | nil => rfl
  | cons c rest =>
    have other : kind.holds c = false := by simpa using stops
    simp [leads, ways, other]

end Leads

end PlanLint
