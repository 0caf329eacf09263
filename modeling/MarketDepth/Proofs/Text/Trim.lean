/-
MarketDepth/Proofs/Text/Trim.lean

Texts without blanks at their ends.

Main results: `Text.trimmed_trimChars` and `Text.Trimmed.trimChars_eq`, that trimming makes
such texts, and leaves them as they are.
-/
import Mathlib.Data.List.DropRight
import MarketDepth.Text.Blank

namespace MarketDepth.Text

variable {cs : List Char}

/-- The text neither begins nor ends with a blank. -/
structure Trimmed (cs : List Char) : Prop where
  front : ∀ c ∈ cs.head?, isBlank c = false
  back : ∀ c ∈ cs.getLast?, isBlank c = false

theorem trimChars_eq_rdropWhile (cs : List Char) :
    trimChars cs = (cs.dropWhile isBlank).rdropWhile isBlank := rfl

theorem head?_dropWhile_isBlank (cs : List Char) :
    ∀ c ∈ (cs.dropWhile isBlank).head?, isBlank c = false := by
  intro c hc
  have hnot := List.head?_dropWhile_not isBlank cs
  rw [Option.mem_def.mp hc] at hnot
  exact hnot

theorem trimmed_trimChars (cs : List Char) : Trimmed (trimChars cs) where
  front := by
    intro c hc
    -- what is left of the front is a prefix of what was left before the end was trimmed
    obtain ⟨rest, hrest⟩ := List.rdropWhile_prefix isBlank (cs.dropWhile isBlank)
    refine head?_dropWhile_isBlank cs c ?_
    rw [Option.mem_def, trimChars_eq_rdropWhile] at hc
    rw [← hrest, List.head?_append, hc]
    rfl
  back := by
    intro c hc
    refine head?_dropWhile_isBlank (cs.dropWhile isBlank).reverse c ?_
    rwa [trimChars, List.getLast?_reverse] at hc

theorem dropWhile_isBlank_eq_self (h : ∀ c ∈ cs.head?, isBlank c = false) :
    cs.dropWhile isBlank = cs := by
  cases cs with
  | nil => rfl
  | cons c cs => rw [List.dropWhile_cons_of_neg (by simp [h c rfl])]

theorem Trimmed.trimChars_eq (h : Trimmed cs) : trimChars cs = cs := by
  have hback : ∀ c ∈ cs.reverse.head?, isBlank c = false := by
    rw [List.head?_reverse]
    exact h.back
  rw [trimChars, dropWhile_isBlank_eq_self h.front, dropWhile_isBlank_eq_self hback,
    List.reverse_reverse]

/-- A text that is blank all over is nothing but its ends. -/
theorem trimChars_eq_nil_iff : trimChars cs = [] ↔ cs.all isBlank = true := by
  rw [trimChars_eq_rdropWhile, List.rdropWhile_eq_nil_iff, List.all_eq_true]
  constructor
  · intro h c hc
    by_cases hblank : cs.dropWhile isBlank = []
    · exact List.dropWhile_eq_nil_iff.mp hblank c hc
    · -- what is left begins with a character that is not blank
      have hhead := List.head_dropWhile_not isBlank hblank
      rw [h _ (List.head_mem hblank)] at hhead
      cases hhead
  · intro h c hc
    exact h c ((List.dropWhile_sublist isBlank).subset hc)

theorem mem_of_mem_trimChars {c : Char} (h : c ∈ trimChars cs) : c ∈ cs :=
  (List.dropWhile_sublist isBlank).subset ((List.rdropWhile_prefix isBlank _).subset h)

end MarketDepth.Text
