/-
MarketDepth/Proofs/Decimal/Sign.lean

Decimals of the other sign.

Rounding treats both signs alike: it goes to the nearest whole number, and of two that are
equally near to the even one, which is even with either sign.  So an operation on operands
of the other sign has the same result with the other sign (`Decimal.add?_neg`,
`Decimal.div?_neg`), and it is in range or not just as before.  What is known of results
that are not negative carries over to the others in this way.

Main result: `Decimal.exists_lean`, that the difference of two decimals that are not
negative can be divided by their sum, with a quotient between -1 and 1.
-/
import MarketDepth.Proofs.Decimal.Quotient

namespace MarketDepth

/-- A quotient is rounded alike on both sides of zero. -/
theorem roundHalfEven_neg {d : Nat} (hd : 0 < d) (m : Int) :
    roundHalfEven (-m) d = -roundHalfEven m d := by
  have hdiv := Int.ediv_mul_add_emod m d
  have hnonneg := Int.emod_nonneg m (b := d) (by omega)
  have hlt := Int.emod_lt_of_pos m (b := d) (by omega)
  have hparity := Int.emod_two_eq (m / d)
  have hunique {q r : Int} (h : r + d * q = -m) (hr : 0 ≤ r) (hr' : r < d) :
      -m / d = q ∧ -m % d = r :=
    (Int.ediv_emod_unique (by omega)).mpr ⟨h, hr, hr'⟩
  unfold roundHalfEven
  dsimp only
  generalize m / (d : Int) = q at hdiv hparity ⊢
  generalize m % (d : Int) = r at hdiv hnonneg hlt ⊢
  -- the floor of the negated quotient is one further down, unless nothing is left over
  rcases Int.lt_or_eq_of_le hnonneg with hrest | rfl
  · obtain ⟨hdiv', hmod'⟩ := hunique (q := -q - 1) (r := d - r) (by rw [← hdiv]; ring)
      (by omega) (by omega)
    rw [hdiv', hmod']
    split
    · rw [if_neg (by omega), if_pos (by omega)]
      omega
    · split
      · rw [if_pos (by omega)]
        omega
      · rw [if_neg (by omega), if_neg (by omega)]
        omega
  · obtain ⟨hdiv', hmod'⟩ := hunique (q := -q) (r := 0) (by rw [← hdiv]; ring)
      (by omega) (by omega)
    rw [hdiv', hmod', if_pos (by omega), if_pos (by omega)]

namespace Decimal

variable {a b d sum : Decimal}

@[simp] theorem neg_mantissa (d : Decimal) : d.neg.mantissa = -d.mantissa := rfl

@[simp] theorem neg_scale (d : Decimal) : d.neg.scale = d.scale := rfl

@[simp] theorem isZero_neg : d.neg.IsZero ↔ d.IsZero := Int.neg_eq_zero

theorem neg_neg (d : Decimal) : d.neg.neg = d := by
  simp only [neg, Int.neg_neg]

/-! ### Fitting a result -/

theorem of?_neg (m : Int) (s : Nat) : of? (-m) s = (of? m s).map neg := by
  unfold of?
  simp only [Int.natAbs_neg]
  split <;> rfl

theorem nearest?_neg (m : Int) (s : Nat) : nearest? (-m) s = (nearest? m s).map neg := by
  unfold nearest?
  induction min s 28 with
  | zero => rw [nearestAt?, nearestAt?, roundHalfEven_neg (tenPow_pos _), of?_neg]
  | succ p ih =>
    rw [nearestAt?, nearestAt?, roundHalfEven_neg (tenPow_pos _), of?_neg, ih]
    cases of? (roundHalfEven m (tenPow (s - (p + 1)))) (p + 1) <;> rfl

/-! ### Operations -/

theorem add?_neg (a b : Decimal) : a.neg.add? b.neg = (a.add? b).map neg := by
  have hsum (s : Nat) : a.neg.mantissaAt s + b.neg.mantissaAt s =
      -(a.mantissaAt s + b.mantissaAt s) := by
    simp only [mantissaAt, neg_mantissa, neg_scale, Int.neg_mul]
    omega
  unfold add?
  simp only [isZero_neg, neg_scale, hsum, nearest?_neg]
  split
  · rfl
  · split <;> rfl

/-- The order of two operands shows only in the scale of a zero. -/
theorem add?_comm (h : ¬(a.IsZero ∧ b.IsZero)) : a.add? b = b.add? a := by
  unfold add?
  by_cases ha : a.IsZero
  · have hb : ¬b.IsZero := fun hb => h ⟨ha, hb⟩
    rw [if_pos ha, if_neg hb, if_pos ha]
  · by_cases hb : b.IsZero
    · rw [if_neg ha, if_pos hb, if_pos hb]
    · rw [if_neg ha, if_neg hb, if_neg hb, if_neg ha]
      simp only [Int.add_comm, Nat.max_comm]

/-- A difference the other way round. -/
theorem sub?_swap (h : ¬(a.IsZero ∧ b.IsZero)) : b.sub? a = (a.sub? b).map neg := by
  have hne : ¬(b.IsZero ∧ a.neg.IsZero) := by
    rw [isZero_neg]
    exact fun hzero => h hzero.symm
  rw [sub?, sub?, ← add?_neg, neg_neg, add?_comm hne]

theorem div?_neg (a b : Decimal) : a.neg.div? b = (a.div? b).map neg := by
  unfold div?
  simp only [isZero_neg, neg_mantissa, neg_scale, Int.natAbs_neg, Int.sign_neg, Int.neg_mul,
    of?_neg]
  split
  · rfl
  · split
    · rfl
    · rw [Option.map_bind]
      rfl

/-! ### The difference over the sum -/

/-- Neither of two decimals that are not negative is above their sum. -/
theorem le_add? (ha : 0 ≤ a.toRat) (hb : 0 ≤ b.toRat) (h : a.add? b = some sum) :
    a.toRat ≤ sum.toRat ∧ b.toRat ≤ sum.toRat := by
  have hfaithful := add?_faithful (add_nonneg ha hb) h
  exact ⟨hfaithful.below a (by linarith), hfaithful.below b (by linarith)⟩

/-- A difference that is not negative is no larger than the sum, rounded or not. -/
theorem exists_share (ha : 0 ≤ a.toRat) (hb : 0 ≤ b.toRat) (hba : b.toRat ≤ a.toRat)
    (hsum : a.add? b = some sum) (hpos : 0 < sum.toRat) :
    ∃ d, a.sub? b = some d ∧ ∃ v, d.div? sum = some v ∧ 0 ≤ v.toRat ∧ v.toRat ≤ 1 := by
  have hleast : zero.toRat ≤ a.toRat - b.toRat := by
    rw [toRat_zero]
    linarith
  have hmost : a.toRat - b.toRat ≤ a.toRat := by linarith
  obtain ⟨d, hd, hlow, hhigh⟩ := (sub?_rounded hba).between hleast hmost
  rw [nonneg_iff_toRat] at hlow
  rw [le_iff_toRat] at hhigh
  have hone : (ofNat 1).toRat = 1 := by norm_num [toRat, ofNat]
  have hnonneg : zero.toRat ≤ d.toRat / sum.toRat := by
    rw [toRat_zero]
    exact div_nonneg hlow hpos.le
  have hle : d.toRat / sum.toRat ≤ (ofNat 1).toRat := by
    rw [hone, div_le_one hpos]
    exact hhigh.trans (le_add? ha hb hsum).1
  obtain ⟨v, hv, hlow', hhigh'⟩ := (div?_rounded hlow hpos).between hnonneg hle
  rw [nonneg_iff_toRat] at hlow'
  rw [le_iff_toRat, hone] at hhigh'
  exact ⟨d, hd, v, hv, hlow', hhigh'⟩

/-- **How two decimals lean**: their difference over their sum lies between -1 and 1, as long
as there is a sum and it is not zero. -/
theorem exists_lean (ha : 0 ≤ a.toRat) (hb : 0 ≤ b.toRat) (hsum : a.add? b = some sum)
    (hpos : 0 < sum.toRat) :
    ∃ d, a.sub? b = some d ∧ ∃ v, d.div? sum = some v ∧ -1 ≤ v.toRat ∧ v.toRat ≤ 1 := by
  rcases le_total b.toRat a.toRat with hba | hab
  · obtain ⟨d, hd, v, hv, hlow, hhigh⟩ := exists_share ha hb hba hsum hpos
    exact ⟨d, hd, v, hv, by linarith, hhigh⟩
  · -- a sum that is not zero has an operand that is not
    have hne : ¬(a.IsZero ∧ b.IsZero) := by
      rintro ⟨hzero, hzero'⟩
      rw [add?, if_pos hzero, Option.some_inj] at hsum
      rw [← hsum, isZero_iff_toRat.mp hzero'] at hpos
      exact lt_irrefl _ hpos
    have hsum' : b.add? a = some sum := (add?_comm hne).symm.trans hsum
    obtain ⟨d, hd, v, hv, hlow, hhigh⟩ := exists_share hb ha hab hsum' hpos
    refine ⟨d.neg, ?_, v.neg, ?_, ?_, ?_⟩
    · rw [sub?_swap fun hzero => hne hzero.symm, hd, Option.map_some]
    · rw [div?_neg, hv, Option.map_some]
    · rw [toRat_neg]
      linarith
    · rw [toRat_neg]
      linarith

end Decimal

end MarketDepth
