/-
MarketDepth/Proofs/Decimal/Range.lean

Which sums and differences are in range.

A result is rounded at ever fewer places until it fits, so it is out of range
exactly if its whole part does not fit once it is rounded to a whole number.  The
limit is even, and a half is rounded to the even neighbour; so what lies half a unit
below the limit is rounded up to it, and is out of range already
(`Decimal.nearest?_eq_none_iff`).

Main results: `Decimal.add?_eq_none_iff`, for the sum of two decimals that are not
negative, and `Decimal.sub?_isSome`, that their difference is always in range.
-/
import MarketDepth.Decimal.Arithmetic
import Mathlib.Tactic.ByContra

namespace MarketDepth

/-! ### Rounding -/

section Rounding

variable {m : Int} {d : Nat}

/-- Rounding goes no further than half a unit. -/
theorem roundHalfEven_near (hd : 0 < d) :
    2 * m ≤ 2 * (roundHalfEven m d * d) + d ∧ 2 * (roundHalfEven m d * d) ≤ 2 * m + d := by
  have hdiv := Int.ediv_mul_add_emod m d
  have hpos := Int.emod_nonneg m (b := d) (by omega)
  have hlt := Int.emod_lt_of_pos m (b := d) (by omega)
  unfold roundHalfEven
  dsimp only
  split
  · constructor <;> omega
  · split
    · rw [Int.add_mul]
      constructor <;> omega
    · -- exactly in the middle: either neighbour is as near as the other
      rcases Int.emod_two_eq (m / d) with h | h
      · rw [h, Int.add_zero]
        constructor <;> omega
      · rw [h, Int.add_mul]
        constructor <;> omega

theorem roundHalfEven_nonneg (hd : 0 < d) (hm : 0 ≤ m) : 0 ≤ roundHalfEven m d := by
  obtain ⟨hnear, -⟩ := roundHalfEven_near (m := m) hd
  by_contra hneg
  have hle : roundHalfEven m d * d ≤ -1 * d :=
    Int.mul_le_mul_of_nonneg_right (by omega) (by omega)
  omega

theorem roundHalfEven_natAbs_le {k : Nat} (hd : 0 < d) (hm : m.natAbs ≤ k * d) :
    (roundHalfEven m d).natAbs ≤ k := by
  obtain ⟨hlow, hhigh⟩ := roundHalfEven_near (m := m) hd
  have hm : (m.natAbs : Int) ≤ k * d := by exact_mod_cast hm
  by_contra hlt
  rcases Int.le_total 0 (roundHalfEven m d) with hsign | hsign
  · have hmul : (k + 1 : Int) * d ≤ roundHalfEven m d * d :=
      Int.mul_le_mul_of_nonneg_right (by omega) (by omega)
    rw [Int.add_mul] at hmul
    omega
  · have hmul : roundHalfEven m d * d ≤ -(k + 1 : Int) * d :=
      Int.mul_le_mul_of_nonneg_right (by omega) (by omega)
    rw [Int.neg_mul, Int.add_mul] at hmul
    omega

/-- An even number is reached from half a unit below it. -/
theorem le_roundHalfEven_iff {k : Int} (hd : 0 < d) (heven : k % 2 = 0) :
    k ≤ roundHalfEven m d ↔ (2 * k - 1) * d ≤ 2 * m := by
  obtain ⟨-, hhigh⟩ := roundHalfEven_near (m := m) hd
  constructor
  · intro h
    have hmul : k * d ≤ roundHalfEven m d * d := Int.mul_le_mul_of_nonneg_right h (by omega)
    rw [Int.sub_mul, Int.mul_assoc]
    omega
  · intro h
    have hdiv := Int.ediv_mul_add_emod m d
    have hlt := Int.emod_lt_of_pos m (b := d) (by omega)
    rw [Int.sub_mul, Int.mul_assoc] at h
    -- the quotient below is at most one unit away
    have hquotient : k - 1 ≤ m / d := by
      by_contra hfar
      have hmul : (m / d + 2) * d ≤ k * d := Int.mul_le_mul_of_nonneg_right (by omega) (by omega)
      rw [Int.add_mul] at hmul
      omega
    rcases Int.lt_or_eq_of_le hquotient with hless | heq
    · unfold roundHalfEven
      dsimp only
      have := Int.emod_two_eq (m / d)
      split
      · omega
      · split <;> omega
    · -- the quotient is the odd number before `k`, and what is left is half a unit or more
      rw [← heq, Int.sub_mul] at hdiv
      unfold roundHalfEven
      dsimp only
      rw [← heq]
      split
      · omega
      · split <;> omega

end Rounding

theorem tenPow_le_tenPow {j k : Nat} (h : j ≤ k) : tenPow j ≤ tenPow k :=
  Nat.pow_le_pow_right (by decide) h

theorem tenPow_add (j k : Nat) : tenPow (j + k) = tenPow j * tenPow k := Nat.pow_add 10 j k

namespace Decimal

variable {a b d : Decimal} {m : Int} {s p : Nat}

/-! ### Fitting a result -/

theorem of?_eq_none_iff : of? m s = none ↔ limit ≤ m.natAbs ∨ 28 < s := by
  unfold of?
  split <;> simp <;> omega

theorem nearestAt?_eq_none_iff (hm : 0 ≤ m) (hp : p ≤ 28) :
    nearestAt? m s p = none ↔ (2 * limit - 1) * tenPow s ≤ 2 * m := by
  -- rounded at more places, a result is only the larger
  have hplace : ∀ k, k ≤ 28 →
      (of? (roundHalfEven m (tenPow (s - k))) k = none ↔
        (2 * limit - 1) * tenPow (s - k) ≤ 2 * m) := by
    intro k hk
    have hround := le_roundHalfEven_iff (m := m) (tenPow_pos (s - k)) (k := limit) (by decide)
    have hnonneg := roundHalfEven_nonneg (tenPow_pos (s - k)) hm
    rw [of?_eq_none_iff, ← hround]
    omega
  induction p with
  | zero => exact hplace 0 (by omega)
  | succ p ih =>
    have hfewer := ih (Nat.le_of_succ_le hp)
    have hpow : (tenPow (s - (p + 1)) : Int) ≤ tenPow s := by
      exact_mod_cast tenPow_le_tenPow (Nat.sub_le _ _)
    rw [nearestAt?, Option.orElse_eq_orElse, Option.orElse_eq_or, Option.or_eq_none_iff]
    constructor
    · rintro ⟨-, h⟩
      exact hfewer.mp h
    · intro h
      have hmore : (2 * limit - 1) * (tenPow (s - (p + 1)) : Int) ≤ 2 * m :=
        Int.le_trans (Int.mul_le_mul_of_nonneg_left hpow (by decide)) h
      exact ⟨(hplace (p + 1) hp).mpr hmore, hfewer.mpr h⟩

/-- A value is out of range from half a unit below the limit. -/
theorem nearest?_eq_none_iff (hm : 0 ≤ m) :
    nearest? m s = none ↔ (2 * limit - 1) * tenPow s ≤ 2 * m :=
  nearestAt?_eq_none_iff hm (Nat.min_le_right _ _)

theorem nearest?_isSome (hm : m.natAbs ≤ (limit - 1) * tenPow s) : (nearest? m s).isSome := by
  have hwhole : (nearestAt? m s 0).isSome := by
    have hle := roundHalfEven_natAbs_le (tenPow_pos s) hm
    have hlimit : 0 < limit := by decide
    rw [← Option.ne_none_iff_isSome, nearestAt?, ne_eq, of?_eq_none_iff]
    omega
  unfold nearest?
  induction min s 28 with
  | zero => exact hwhole
  | succ p ih => simp [nearestAt?, ih]

/-! ### Sums and differences -/

theorem units_nonneg_iff : 0 ≤ d.units ↔ 0 ≤ d.mantissa := by
  have hpow := tenPow_pos (28 - d.scale)
  rw [units]
  exact Int.mul_nonneg_iff_of_pos_right (by omega)

theorem units_eq (hd : d.scale ≤ s) (hs : s ≤ 28) :
    d.units = d.mantissaAt s * tenPow (28 - s) := by
  have hsplit : 28 - d.scale = s - d.scale + (28 - s) := by omega
  rw [units, mantissaAt, hsplit, tenPow_add, Int.mul_assoc, Int.natCast_mul]

theorem mantissaAt_natAbs_le (d : Decimal) (s : Nat) :
    (d.mantissaAt s).natAbs ≤ (limit - 1) * tenPow s := by
  have hmantissa := d.mantissa_lt
  rw [mantissaAt, Int.natAbs_mul, Int.natAbs_natCast]
  exact Nat.mul_le_mul (by omega) (tenPow_le_tenPow (Nat.sub_le _ _))

/-- A decimal is at least a unit below the limit. -/
theorem units_le (d : Decimal) : d.units ≤ (limit - 1) * tenPow 28 := by
  have h := d.mantissaAt_natAbs_le 28
  have hunits := d.units_eq d.scale_le (Nat.le_refl 28)
  rw [Nat.sub_self, tenPow_zero, Int.natCast_one, Int.mul_one] at hunits
  have hcast : ((limit - 1 : Nat) * tenPow 28 : Int) = (limit - 1) * tenPow 28 := by decide
  omega

theorem not_tooLarge_alone (d : Decimal) : ¬(2 * limit - 1) * tenPow 28 ≤ 2 * d.units := by
  have hle := d.units_le
  have hpow := tenPow_pos 28
  rw [Int.sub_mul, Int.mul_assoc]
  rw [Int.sub_mul] at hle
  omega

/-- The sum is half a unit below the limit, or more. -/
def SumTooLarge (a b : Decimal) : Prop := (2 * limit - 1) * tenPow 28 ≤ 2 * (a.units + b.units)

instance (a b : Decimal) : Decidable (SumTooLarge a b) := inferInstanceAs (Decidable (_ ≤ _))

/-- A sum of two decimals that are not negative is out of range exactly if it is too
large, at whatever scales they are. -/
theorem add?_eq_none_iff (ha : .zero ≤ a) (hb : .zero ≤ b) : a.add? b = none ↔ SumTooLarge a b := by
  unfold add? SumTooLarge
  split
  · next hzero =>
    rw [isZero_iff_units.mp hzero, Int.zero_add]
    simp only [reduceCtorEq, b.not_tooLarge_alone]
  · split
    · next hzero =>
      rw [isZero_iff_units.mp hzero, Int.add_zero]
      simp only [reduceCtorEq, a.not_tooLarge_alone]
    · have hs : max a.scale b.scale ≤ 28 := Nat.max_le.mpr ⟨a.scale_le, b.scale_le⟩
      dsimp only
      generalize hmax : max a.scale b.scale = s at hs
      have hua := units_eq (d := a) (s := s) (by omega) hs
      have hub := units_eq (d := b) (s := s) (by omega) hs
      have hpos : (0 : Int) < tenPow (28 - s) := by exact_mod_cast tenPow_pos _
      have hscale : (tenPow 28 : Int) = tenPow s * tenPow (28 - s) := by
        rw [← Int.natCast_mul, ← tenPow_add]
        congr 2
        omega
      have hnonneg : 0 ≤ a.mantissaAt s + b.mantissaAt s := by
        have ha : 0 ≤ a.mantissaAt s * tenPow (28 - s) := hua ▸ ha
        have hb : 0 ≤ b.mantissaAt s * tenPow (28 - s) := hub ▸ hb
        have := (Int.mul_nonneg_iff_of_pos_right hpos).mp ha
        have := (Int.mul_nonneg_iff_of_pos_right hpos).mp hb
        omega
      rw [nearest?_eq_none_iff hnonneg, hua, hub, hscale, ← Int.add_mul, ← Int.mul_assoc,
        ← Int.mul_assoc]
      exact (Int.mul_le_mul_right hpos).symm

theorem not_tooLarge_of_add? (ha : .zero ≤ a) (hb : .zero ≤ b) (h : a.add? b = some d) :
    ¬SumTooLarge a b := by
  rw [← add?_eq_none_iff ha hb, h]
  simp

/-- The difference of two decimals that are not negative is no further from zero than
the larger of them, and so in range. -/
theorem sub?_isSome (ha : .zero ≤ a) (hb : .zero ≤ b) : (a.sub? b).isSome := by
  unfold sub? add?
  split
  · rfl
  · split
    · rfl
    · dsimp only
      generalize max a.scale b.neg.scale = s
      refine nearest?_isSome ?_
      have hla := a.mantissaAt_natAbs_le s
      have hlb := b.mantissaAt_natAbs_le s
      have hneg : b.neg.mantissaAt s = -b.mantissaAt s := Int.neg_mul _ _
      have hma : 0 ≤ a.mantissaAt s := Int.mul_nonneg (units_nonneg_iff.mp ha) (by omega)
      have hmb : 0 ≤ b.mantissaAt s := Int.mul_nonneg (units_nonneg_iff.mp hb) (by omega)
      omega

end Decimal

end MarketDepth
