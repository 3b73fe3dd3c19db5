import PlanLint.Proofs.Yaml.Place
import PlanLint.Yaml.Token.Plain

/-! A plain scalar is read from one place of a text to another, and no line break ends it. -/

namespace PlanLint

variable {text : List Char} {c : Cursor}

/-- A plain scalar of a text. -/
structure PlainScalar.IsOf (text : List Char) (scalar : PlainScalar) : Prop where
  stop : scalar.stop.IsPlaceOf text
  cursor : scalar.cursor.StandsIn text
  ends : scalar.text.getLast? ≠ some '\n'

/-- A character of a plain scalar ends no line. -/
theorem endsLine_of_isPlain {context : PlainContext} {char next : Char} (plain : isPlain context char next = true) :
    endsLine char = false := by
  -- Two signs are allowed by what follows them, and any other character by itself.
  unfold isPlain at plain
  split at plain
  · rename_i colon
    simp only [Bool.and_eq_true, beq_iff_eq] at colon
    rw [colon.1]
    decide
  · split at plain
    · rename_i question
      simp only [Bool.and_eq_true, beq_iff_eq] at question
      rw [question.1]
      decide
    · simp only [Bool.and_eq_true, Bool.not_eq_true', endsWord, Bool.or_eq_false_iff] at plain
      exact plain.1.1.2

/-- A run of a plain scalar stands at the start of what it is read from. -/
theorem plainRun_prefix (context : PlainContext) (rest : List Char) : plainRun context rest <+: rest := by
  -- Induction on the characters: the run stops at the first that is not plain.
  induction rest with
  | nil => exact List.nil_prefix
  | cons char rest ih =>
    rw [plainRun]
    split
    · exact (List.prefix_cons_inj char).mpr ih
    · exact List.nil_prefix

/-- No character of a run ends a line. -/
theorem endsLine_of_mem_plainRun {context : PlainContext} {rest : List Char} {char : Char}
    (member : char ∈ plainRun context rest) : endsLine char = false := by
  -- Induction on the characters: those of the run are plain, and no plain one ends a line.
  induction rest with
  | nil => simp [plainRun] at member
  | cons first rest ih =>
    rw [plainRun] at member
    split at member
    · rename_i plain
      rcases List.mem_cons.mp member with rfl | later
      · exact endsLine_of_isPlain plain
      · exact ih later
    · simp at member

/-- The line breaks inside a plain scalar. -/
theorem Cursor.StandsIn.plainBreaks {fuel : Nat} (stands : c.StandsIn text) :
    (plainBreaks fuel c).2.1.StandsIn text := by
  -- Induction on the fuel: a space or a break is passed, unless a marker stands behind the break.
  induction fuel generalizing c with
  | zero => exact stands
  | succ fuel ih =>
    rw [PlanLint.plainBreaks]
    split
    · rename_i space
      exact ih (stands.next_over (eq_of_beq space) (by decide))
    · split
      · exact stands
      · rename_i broken
        have behind := stands.behind_lineBreak broken
        split
        · exact behind
        · exact ih behind

/-- The gap between two runs of a plain scalar. -/
theorem Cursor.StandsIn.plainGap {gap : PlainGap} (stands : c.StandsIn text) (found : plainGap? c = some gap) :
    gap.cursor.StandsIn text := by
  have spaces : (c.takeRun (· == ' ')).2.StandsIn text := stands.skip_spaces
  unfold plainGap? at found
  generalize c.takeRun (· == ' ') = taken at spaces found
  obtain ⟨blanks, c⟩ := taken
  dsimp only at spaces found
  -- There is a gap of spaces, or one over the end of the line.
  split at found
  · split at found
    · simp at found
    · rw [← Option.some.inj found]
      exact spaces
  · rename_i broken
    have behind := spaces.behind_lineBreak broken
    split at found
    · rw [← Option.some.inj found]
      exact behind
    · rw [← Option.some.inj found]
      exact behind.plainBreaks

/-- A plain scalar that is read on. -/
theorem plainFrom_isOf {context : PlainContext} {fuel : Nat} {scalar : PlainScalar} {gap : List Char}
    (starts : scalar.IsOf text) : (plainFrom context fuel scalar gap).IsOf text := by
  induction fuel generalizing scalar gap with
  | zero => exact starts
  | succ fuel ih =>
    rw [plainFrom]
    split
    · exact starts
    · split
      · exact starts
      · rename_i nonempty
        have front := plainRun_prefix context scalar.cursor.rest
        have noBreak : ∀ char ∈ plainRun context scalar.cursor.rest, endsLine char = false :=
          fun _ => endsLine_of_mem_plainRun
        -- Of the run only matters that it stands at the cursor and holds no line break.
        generalize plainRun context scalar.cursor.rest = run at front noBreak nonempty ⊢
        have behind : (scalar.cursor.skip run.length).StandsIn text :=
          starts.cursor.skip_prefix front (fun member => absurd (noBreak '\r' member) (by decide)) (Nat.le_refl _)
        -- The gap may end with a newline, but the run behind it is not empty.
        have ends : (scalar.text ++ gap ++ run).getLast? ≠ some '\n' := by
          rw [List.getLast?_append, List.getLast?_eq_some_getLast nonempty, Option.some_or]
          intro last
          exact absurd (noBreak '\n' (Option.some.inj last ▸ List.getLast_mem nonempty)) (by decide)
        dsimp only
        split
        · exact ⟨behind.isPlace, behind, ends⟩
        · rename_i found
          have read := behind.plainGap found
          split
          · exact ⟨behind.isPlace, read, ends⟩
          · exact ih ⟨behind.isPlace, read, ends⟩

/-- The plain scalar at a cursor. -/
theorem readPlain_isOf (context : PlainContext) (stands : c.StandsIn text) : (readPlain context c).IsOf text :=
  plainFrom_isOf ⟨stands.isPlace, stands, by simp⟩

end PlanLint
