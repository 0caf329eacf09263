/-
MarketDepth/Proofs/Decimal/Values.lean

Decimals as rational numbers.

The value of a decimal is a rational number (`Decimal.toRat`), and order and equality
by value are those of the rational numbers.  A rational number is the value of a decimal
if it has few enough places and digits; which these are is all that has to be known of an
exact result to see that it is not rounded (`Decimal.OnGrid.exists_decimal`).
-/
import MarketDepth.Level
import MarketDepth.Proofs.Decimal.Range
import Mathlib.Data.Rat.Cast.Order
import Mathlib.Tactic.FieldSimp
import Mathlib.Tactic.Linarith
import Mathlib.Tactic.NormNum
import Mathlib.Tactic.Positivity
import Mathlib.Tactic.Ring

namespace MarketDepth

theorem cast_tenPow (k : Nat) : (tenPow k : ℚ) = 10 ^ k := Nat.cast_pow 10 k

namespace Decimal

variable {a b d : Decimal} {s t : Nat} {x y : ℚ}

/-! ### Values -/

/-- The value of a decimal. -/
def toRat (d : Decimal) : ℚ := d.mantissa / 10 ^ d.scale

theorem mantissa_eq (d : Decimal) : (d.mantissa : ℚ) = d.toRat * 10 ^ d.scale := by
  rw [toRat, div_mul_cancel₀ _ (by positivity)]

theorem mantissa_nonneg (h : 0 ≤ d.toRat) : 0 ≤ d.mantissa := by
  have hm : (0 : ℚ) ≤ d.mantissa := by
    rw [mantissa_eq]
    positivity
  exact_mod_cast hm

theorem mantissaAt_eq (h : d.scale ≤ s) : (d.mantissaAt s : ℚ) = d.toRat * 10 ^ s := by
  have hsplit : (10 : ℚ) ^ s = 10 ^ d.scale * 10 ^ (s - d.scale) := by
    rw [← pow_add, Nat.add_sub_cancel' h]
  rw [mantissaAt, Int.cast_mul, Int.cast_natCast, cast_tenPow, mantissa_eq, hsplit, mul_assoc]

theorem units_eq_toRat (d : Decimal) : (d.units : ℚ) = d.toRat * 10 ^ 28 :=
  mantissaAt_eq d.scale_le

theorem le_iff_toRat : a ≤ b ↔ a.toRat ≤ b.toRat := by
  rw [le_iff, ← Int.cast_le (R := ℚ), units_eq_toRat, units_eq_toRat]
  exact mul_le_mul_iff_of_pos_right (by positivity)

theorem lt_iff_toRat : a < b ↔ a.toRat < b.toRat := by
  rw [lt_iff, ← Int.cast_lt (R := ℚ), units_eq_toRat, units_eq_toRat]
  exact mul_lt_mul_iff_of_pos_right (by positivity)

theorem equiv_iff_toRat : a ≈ b ↔ a.toRat = b.toRat := by
  have hcast : a.units = b.units ↔ (a.units : ℚ) = b.units := Int.cast_inj.symm
  rw [equiv_iff, hcast, units_eq_toRat, units_eq_toRat]
  exact mul_left_inj' (by positivity)

@[simp] theorem toRat_zero : zero.toRat = 0 := zero_div _

theorem toRat_neg (d : Decimal) : d.neg.toRat = -d.toRat := by
  rw [toRat, toRat, neg, Int.cast_neg, neg_div]

theorem isZero_iff_toRat : d.IsZero ↔ d.toRat = 0 := by
  have hcast : d.units = 0 ↔ (d.units : ℚ) = 0 := Int.cast_eq_zero.symm
  rw [isZero_iff_units, hcast, units_eq_toRat]
  simp

/-- With no more places than it has, a decimal stays below the limit. -/
theorem toRat_mul_le (d : Decimal) (h : s ≤ d.scale) : d.toRat * 10 ^ s ≤ limit - 1 := by
  have hmantissa : (d.mantissa : ℚ) ≤ limit - 1 := by
    have hlt := d.mantissa_lt
    have hle : d.mantissa ≤ limit - 1 := by omega
    exact_mod_cast hle
  have hlimit : (0 : ℚ) ≤ limit - 1 := by norm_num [limit]
  rw [mantissa_eq] at hmantissa
  rcases le_or_gt d.toRat 0 with hneg | hpos
  · exact le_trans (mul_nonpos_of_nonpos_of_nonneg hneg (by positivity)) hlimit
  · have hpow : (10 : ℚ) ^ s ≤ 10 ^ d.scale := pow_le_pow_right₀ (by norm_num) h
    exact le_trans (mul_le_mul_of_nonneg_left hpow hpos.le) hmantissa

theorem toRat_le (d : Decimal) : d.toRat ≤ limit - 1 := by
  have h := d.toRat_mul_le (Nat.zero_le _)
  rwa [pow_zero, mul_one] at h

theorem toRat_greatest : greatest.toRat = limit - 1 := by
  norm_num [toRat, greatest, ofNat, limit]

theorem toRat_min (a b : Decimal) : (min a b).toRat = min a.toRat b.toRat := by
  show (if b < a then b else a).toRat = _
  split
  · next h => exact (min_eq_right (lt_iff_toRat.mp h).le).symm
  · next h =>
    rw [lt_iff_toRat, not_lt] at h
    exact (min_eq_left h).symm

theorem pos_iff_toRat : .zero < a ↔ 0 < a.toRat := by
  rw [lt_iff_toRat, toRat_zero]

theorem nonneg_iff_toRat : .zero ≤ a ↔ 0 ≤ a.toRat := by
  rw [le_iff_toRat, toRat_zero]

theorem not_isZero_of_pos (h : .zero < a) : ¬a.IsZero :=
  fun hzero => (pos_iff_toRat.mp h).ne' (isZero_iff_toRat.mp hzero)

/-! ### Values with few places -/

/-- The value is a whole number of `10 ^ -s`. -/
def OnGrid (s : Nat) (x : ℚ) : Prop := ∃ i : Int, x * 10 ^ s = i

theorem OnGrid.zero : OnGrid s 0 := ⟨0, by rw [zero_mul, Int.cast_zero]⟩

/-- A decimal has no more places than its scale says. -/
theorem OnGrid.of_scale_le (h : a.scale ≤ s) : OnGrid s a.toRat :=
  ⟨a.mantissaAt s, (mantissaAt_eq h).symm⟩

theorem OnGrid.add (hx : OnGrid s x) (hy : OnGrid s y) : OnGrid s (x + y) := by
  obtain ⟨i, hi⟩ := hx
  obtain ⟨j, hj⟩ := hy
  exact ⟨i + j, by rw [add_mul, hi, hj, Int.cast_add]⟩

theorem OnGrid.sub (hx : OnGrid s x) (hy : OnGrid s y) : OnGrid s (x - y) := by
  obtain ⟨i, hi⟩ := hx
  obtain ⟨j, hj⟩ := hy
  exact ⟨i - j, by rw [sub_mul, hi, hj, Int.cast_sub]⟩

theorem OnGrid.mul (hx : OnGrid s x) (hy : OnGrid t y) : OnGrid (s + t) (x * y) := by
  obtain ⟨i, hi⟩ := hx
  obtain ⟨j, hj⟩ := hy
  exact ⟨i * j, by rw [pow_add, mul_mul_mul_comm, hi, hj, Int.cast_mul]⟩

theorem OnGrid.min (hx : OnGrid s x) (hy : OnGrid s y) : OnGrid s (min x y) := by
  rcases min_choice x y with h | h
  · rwa [h]
  · rwa [h]

/-- Less than what has few enough digits has few enough as well. -/
theorem fits_of_le (h : x ≤ y) (hy : y * 10 ^ s < limit) : x * 10 ^ s < limit :=
  lt_of_le_of_lt (mul_le_mul_of_nonneg_right h (by positivity)) hy

/-- A value with few enough places and digits is that of a decimal. -/
theorem OnGrid.exists_decimal (h : OnGrid s x) (hs : s ≤ 28) (hx : 0 ≤ x)
    (hfits : x * 10 ^ s < limit) : ∃ e : Decimal, e.toRat = x := by
  obtain ⟨i, hi⟩ := h
  have hnonneg : 0 ≤ i := by
    have : (0 : ℚ) ≤ i := by
      rw [← hi]
      positivity
    exact_mod_cast this
  have hlt : i < limit := by
    rw [hi] at hfits
    exact_mod_cast hfits
  refine ⟨⟨i, s, by omega, hs⟩, ?_⟩
  rw [toRat, div_eq_iff (by positivity)]
  exact hi.symm

/-! ### Small decimals -/

theorem toNat_natAbs_lt (n : UInt16) : (n.toNat : Int).natAbs < limit := by
  rw [Int.natAbs_natCast]
  exact Nat.lt_trans n.toNat_lt (by decide)

/-- A decimal with one place. -/
def tenths (n : UInt16) : Decimal := ⟨n.toNat, 1, toNat_natAbs_lt n, by decide⟩

theorem toRat_tenths (n : UInt16) : (tenths n).toRat = n.toNat / 10 := by
  rw [toRat, tenths, pow_one, Int.cast_natCast]

end Decimal

theorem Level.Positive.price_pos {l : Level} (h : l.Positive) : 0 < l.price.toRat :=
  Decimal.pos_iff_toRat.mp h.1

theorem Level.Positive.amount_pos {l : Level} (h : l.Positive) : 0 < l.amount.toRat :=
  Decimal.pos_iff_toRat.mp h.2

end MarketDepth
