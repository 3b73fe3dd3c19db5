import Mathlib.Data.List.TakeWhile
import PlanLint.Text.Blank
import PlanLint.Text.LetterCase

/-! Texts without the blanks around them, and texts in small letters. -/

namespace PlanLint

variable {text before word behind : List Char}

/-- Among the characters of ASCII the small letters are the usual ones. -/
theorem smallLetter_eq_toLower {c : Char} (ascii : c.toNat < 128) : smallLetter c = c.toLower := by
  -- There are 128 characters to try.
  have all : ∀ n < 128, smallLetter (Char.ofNat n) = (Char.ofNat n).toLower := by decide +kernel
  simpa [Char.ofNat_toNat] using all c.toNat ascii

/-- A text of ASCII in small letters. -/
theorem smallLetters_eq_map (ascii : ∀ c ∈ text, c.toNat < 128) : smallLetters text = text.map Char.toLower := by
  induction text with
  | nil => rfl
  | cons c text ih =>
    -- Only the dotted capital has a small letter of two characters, and it is none of ASCII.
    have dotless : c ≠ '\u0130' := by
      rintro rfl
      exact absurd (ascii '\u0130' List.mem_cons_self) (by decide)
    have first := smallLetter_eq_toLower (ascii c List.mem_cons_self)
    rw [smallLetters, List.flatMap_cons, List.map_cons, ← smallLetters,
      ih fun c inside => ascii c (List.mem_cons_of_mem _ inside)]
    simp [dotless, first]

/-- Where no character is passed over the text stays as it is. -/
theorem dropWhile_none {passes : Char → Bool} (none : ∀ c ∈ text, passes c = false) :
    text.dropWhile passes = text := by
  -- It is enough that the first character stays.
  rw [List.dropWhile_eq_self_iff]
  intro size
  simp [none _ (List.getElem_mem size)]

/-- Blanks around a word without blanks are taken away, and nothing else is. -/
theorem trim_between (blank : ∀ c ∈ before ++ behind, isBlank c = true) (spoken : ∀ c ∈ word, isBlank c = false)
    (written : word ≠ []) : trim (before ++ word ++ behind) = word := by
  obtain ⟨first, rest, rfl⟩ := List.exists_cons_of_ne_nil written
  have front : trimStart (before ++ (first :: rest) ++ behind) = first :: rest ++ behind := by
    rw [trimStart, List.append_assoc,
      List.dropWhile_append_of_pos fun c inside => blank c (List.mem_append_left _ inside), List.cons_append,
      List.dropWhile_cons_of_neg (by simp [spoken first])]
  -- From its other end the word is a run without blanks too.
  have untouched : (first :: rest).reverse.dropWhile isBlank = (first :: rest).reverse :=
    dropWhile_none fun c inside => spoken c (List.mem_reverse.mp inside)
  rw [trim, front, trimEnd, List.reverse_append, List.dropWhile_append_of_pos, untouched, List.reverse_reverse]
  intro c inside
  exact blank c (List.mem_append_right _ (List.mem_reverse.mp inside))

end PlanLint
