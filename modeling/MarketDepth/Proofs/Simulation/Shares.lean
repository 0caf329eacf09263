/-
MarketDepth/Proofs/Simulation/Shares.lean

What an order is to take from the levels of a side.

From each level an order takes all there is, or what the levels before it leave over of
the amount wanted, whichever is less (`Simulation.shares`).  No walk is needed to say
this, and no decimals: amounts, prices and their sums are rational numbers here.

Main result: `Simulation.taken_shares`, that an order is filled as far as the levels reach.
-/
import MarketDepth.Proofs.Decimal.Values
import Mathlib.Algebra.BigOperators.Group.List.Basic
import Mathlib.Algebra.Order.BigOperators.Group.List

namespace MarketDepth

namespace Simulation

open Decimal (OnGrid)

variable {l : Level} {levels rest : List Level} {wanted : ℚ} {s : Nat}

/-! ### Shares -/

/-- A level and how much an order takes of it. -/
structure Share where
  level : Level
  taken : ℚ

/-- What is paid for the share. -/
def Share.paid (x : Share) : ℚ := x.taken * x.level.price.toRat

/-- From each level all there is, or what is still wanted of an amount. -/
def shares (wanted : ℚ) : List Level → List Share
  | [] => []
  | l :: rest =>
    ⟨l, min l.amount.toRat (max 0 wanted)⟩ :: shares (wanted - l.amount.toRat) rest

/-- All that rests on the levels. -/
def volume (levels : List Level) : ℚ := (levels.map (·.amount.toRat)).sum

/-- The price of all that rests on the levels. -/
def worth (levels : List Level) : ℚ := (levels.map fun l => l.price.toRat * l.amount.toRat).sum

def taken (xs : List Share) : ℚ := (xs.map (·.taken)).sum

def paid (xs : List Share) : ℚ := (xs.map Share.paid).sum

/-- The shares that are not empty. -/
def touched (xs : List Share) : List Share := xs.filter fun x => 0 < x.taken

theorem touched_cons {x : Share} {xs : List Share} (h : 0 < x.taken) :
    touched (x :: xs) = x :: touched xs :=
  List.filter_cons_of_pos (decide_eq_true h)

/-- The number of levels that are used up. -/
def usedUp (xs : List Share) : Nat := xs.countP fun x => x.taken = x.level.amount.toRat

@[simp] theorem volume_cons : volume (l :: rest) = l.amount.toRat + volume rest := by
  simp [volume]

theorem map_level_shares (wanted : ℚ) (levels : List Level) :
    (shares wanted levels).map (·.level) = levels := by
  induction levels generalizing wanted with
  | nil => rfl
  | cons l rest ih =>
    show l :: _ = l :: rest
    rw [ih]

theorem mem_of_mem_shares {x : Share} (h : x ∈ shares wanted levels) : x.level ∈ levels := by
  have hx := List.mem_map_of_mem (f := Share.level) h
  rwa [map_level_shares] at hx

theorem volume_nonneg (h : ∀ l ∈ levels, l.Positive) : 0 ≤ volume levels := by
  refine List.sum_nonneg ?_
  intro a ha
  obtain ⟨l, hl, rfl⟩ := List.mem_map.mp ha
  exact (h l hl).amount_pos.le

theorem volume_pos (h : ∀ l ∈ levels, l.Positive) (hlevels : levels ≠ []) : 0 < volume levels := by
  obtain ⟨l, rest, rfl⟩ := List.exists_cons_of_ne_nil hlevels
  obtain ⟨hl, hrest⟩ := List.forall_mem_cons.mp h
  rw [volume_cons]
  exact add_pos_of_pos_of_nonneg hl.amount_pos (volume_nonneg hrest)

theorem taken_nonneg {x : Share} (h : ∀ l ∈ levels, l.Positive) (hx : x ∈ shares wanted levels) :
    0 ≤ x.taken := by
  induction levels generalizing wanted with
  | nil => cases hx
  | cons l rest ih =>
    obtain ⟨hl, hrest⟩ := List.forall_mem_cons.mp h
    rcases List.mem_cons.mp hx with rfl | hx
    · exact le_min hl.amount_pos.le (le_max_left _ _)
    · exact ih hrest hx

theorem taken_le {x : Share} (hx : x ∈ shares wanted levels) :
    x.taken ≤ x.level.amount.toRat := by
  induction levels generalizing wanted with
  | nil => cases hx
  | cons l rest ih =>
    rcases List.mem_cons.mp hx with rfl | hx
    · exact min_le_left _ _
    · exact ih hx

/-- Once nothing is wanted any more, nothing is taken. -/
theorem taken_of_nonpos {x : Share} (h : ∀ l ∈ levels, l.Positive) (hwanted : wanted ≤ 0)
    (hx : x ∈ shares wanted levels) : x.taken = 0 := by
  induction levels generalizing wanted with
  | nil => cases hx
  | cons l rest ih =>
    obtain ⟨hl, hrest⟩ := List.forall_mem_cons.mp h
    have ha := hl.amount_pos
    rcases List.mem_cons.mp hx with rfl | hx
    · show min l.amount.toRat (max 0 wanted) = 0
      rw [max_eq_left hwanted, min_eq_right ha.le]
    · exact ih hrest (by linarith) hx

/-- It makes no difference by how much too little is left. -/
theorem shares_max (h : ∀ l ∈ levels, l.Positive) (wanted : ℚ) :
    shares (max 0 wanted) levels = shares wanted levels := by
  induction levels generalizing wanted with
  | nil => rfl
  | cons l rest ih =>
    obtain ⟨hl, hrest⟩ := List.forall_mem_cons.mp h
    have ha := hl.amount_pos
    have hleft : max 0 (max 0 wanted - l.amount.toRat) = max 0 (wanted - l.amount.toRat) := by
      rcases le_total wanted 0 with hle | hle
      · rw [max_eq_left hle, max_eq_left (by linarith), max_eq_left (by linarith)]
      · rw [max_eq_right hle]
    unfold shares
    rw [max_eq_right (le_max_left 0 wanted), ← ih hrest (max 0 wanted - _), hleft, ih hrest]

theorem shares_cons (h : ∀ l ∈ rest, l.Positive) (hwanted : 0 ≤ wanted) :
    shares wanted (l :: rest) =
      ⟨l, min l.amount.toRat wanted⟩ :: shares (max 0 (wanted - l.amount.toRat)) rest := by
  rw [shares, max_eq_right hwanted, shares_max h]

/-- The order is filled as far as the levels reach. -/
theorem taken_shares (h : ∀ l ∈ levels, l.Positive) (hwanted : 0 ≤ wanted) :
    taken (shares wanted levels) = min wanted (volume levels) := by
  induction levels generalizing wanted with
  | nil => exact (min_eq_right hwanted).symm
  | cons l rest ih =>
    obtain ⟨hl, hrest⟩ := List.forall_mem_cons.mp h
    have ha := hl.amount_pos
    have hvolume := volume_nonneg hrest
    have hsum : taken (shares wanted (l :: rest)) = min l.amount.toRat wanted +
        taken (shares (max 0 (wanted - l.amount.toRat)) rest) := by
      rw [shares_cons hrest hwanted]
      simp only [taken, List.map_cons, List.sum_cons]
    rw [hsum, ih hrest (le_max_left _ _), volume_cons]
    -- the order ends on this level or goes on behind it
    rcases le_total wanted l.amount.toRat with hends | hon
    · rw [min_eq_right hends, max_eq_left (by linarith), min_eq_left hvolume, add_zero,
        min_eq_left (by linarith)]
    · rw [min_eq_left hon, max_eq_right (by linarith), ← min_add_add_left, add_sub_cancel]

/-- What is paid is at most the price of all the levels. -/
theorem paid_le_worth (h : ∀ l ∈ levels, l.Positive) (wanted : ℚ) :
    paid (shares wanted levels) ≤ worth levels := by
  induction levels generalizing wanted with
  | nil => exact le_refl _
  | cons l rest ih =>
    obtain ⟨hl, hrest⟩ := List.forall_mem_cons.mp h
    have hpart : min l.amount.toRat (max 0 wanted) * l.price.toRat ≤
        l.price.toRat * l.amount.toRat := by
      rw [mul_comm]
      exact mul_le_mul_of_nonneg_left (min_le_left _ _) hl.price_pos.le
    simp only [paid, worth, shares, Share.paid, List.map_cons, List.sum_cons]
    exact add_le_add hpart (ih hrest _)

theorem paid_nonneg (h : ∀ l ∈ levels, l.Positive) : 0 ≤ paid (shares wanted levels) := by
  refine List.sum_nonneg ?_
  intro v hv
  obtain ⟨x, hx, rfl⟩ := List.mem_map.mp hv
  exact mul_nonneg (taken_nonneg h hx) (h _ (mem_of_mem_shares hx)).price_pos.le

/-- What is not used up is left. -/
theorem length_sub_usedUp (wanted : ℚ) (levels : List Level) :
    levels.length - usedUp (shares wanted levels) =
      (shares wanted levels).countP fun x => x.taken < x.level.amount.toRat := by
  have hlength : levels.length = (shares wanted levels).length := by
    rw [← List.length_map (f := Share.level), map_level_shares]
  have hsplit := List.length_eq_countP_add_countP
    (fun x : Share => decide (x.taken = x.level.amount.toRat)) (l := shares wanted levels)
  have hrest : (shares wanted levels).countP
      (fun x => decide (¬decide (x.taken = x.level.amount.toRat) = true)) =
        (shares wanted levels).countP fun x => x.taken < x.level.amount.toRat := by
    refine List.countP_congr ?_
    intro x hx
    simp only [decide_eq_true_eq]
    exact ⟨lt_of_le_of_ne (taken_le hx), ne_of_lt⟩
  rw [hlength, hsplit, hrest]
  exact Nat.add_sub_cancel_left _ _

theorem volume_onGrid (h : ∀ l ∈ levels, OnGrid s l.amount.toRat) : OnGrid s (volume levels) := by
  induction levels with
  | nil => exact .zero
  | cons l rest ih =>
    obtain ⟨hl, hrest⟩ := List.forall_mem_cons.mp h
    rw [volume_cons]
    exact hl.add (ih hrest)

end Simulation

end MarketDepth
