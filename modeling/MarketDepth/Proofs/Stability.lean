/-
MarketDepth/Proofs/Stability.lean

Sorting keeps the order of what is tied.

Held messages are drained in the order of their numbers, and the levels of a snapshot are
sorted by price.  Where several have one number or one price, it matters which of them came
last, and sorting must not change this.
-/
import Mathlib.Data.List.Basic

namespace MarketDepth

variable {α : Type} {le : α → α → Bool} {p : α → Bool}

/-- The elements that `p` selects come out of the sorting as they went in, if any two of them
are tied. -/
theorem filter_mergeSort (trans : ∀ a b c, le a b → le b c → le a c)
    (total : ∀ a b, le a b || le b a) (tied : ∀ a b, p a → p b → le a b) (xs : List α) :
    (xs.mergeSort le).filter p = xs.filter p := by
  have hsame : (xs.filter p).Pairwise fun a b => le a b := by
    rw [List.pairwise_filter]
    exact List.pairwise_of_forall tied
  have hsub : (xs.filter p).Sublist (xs.mergeSort le) :=
    List.sublist_mergeSort trans total hsame List.filter_sublist
  have hfilter := hsub.filter p
  simp only [List.filter_filter, Bool.and_self] at hfilter
  have hlength := ((List.mergeSort_perm xs le).filter p).length_eq
  exact (hfilter.eq_of_length hlength.symm).symm

end MarketDepth
