/-
MarketDepth/Proofs/Decimal/Normal.lean

One normal form for each value.

Dropping the zeros at the end of a fraction keeps the value and leaves a decimal whose
fraction does not end in zero (`Decimal.Normal`).  Only one of the decimals with a value is
like that: were there two at different scales, the one at the larger scale would end in zero.
So two decimals have the same normal form exactly if they have the same value, and since a
decimal can be read off what is written of it, the same holds of their written normal forms.

Main result: `Decimal.toChars_normalize_eq_iff`.
-/
import MarketDepth.Proofs.Decimal.Range
import MarketDepth.Proofs.Decimal.Written

namespace MarketDepth.Decimal

variable {a b d : Decimal} {m : Int} {s : Nat}

/-- The fraction does not end in zero. -/
def Normal (d : Decimal) : Prop := d.scale = 0 ∨ d.mantissa % 10 ≠ 0

/-! ### Dropping zeros -/

theorem dropZeros_value (h : s ≤ 28) :
    (dropZeros m s).1 * tenPow (28 - (dropZeros m s).2) = m * tenPow (28 - s) := by
  fun_induction dropZeros m s with
  | case1 m => rfl
  | case2 m s hzero ih =>
    have hscale : 28 - s = 28 - (s + 1) + 1 := by omega
    have hten : m / 10 * 10 = m := by omega
    rw [ih (by omega), hscale, tenPow_succ, Int.natCast_mul, Int.mul_comm (tenPow _ : Int),
      ← Int.mul_assoc]
    exact congrArg (· * (tenPow (28 - (s + 1)) : Int)) hten
  | case3 m s hnonzero => rfl

theorem dropZeros_normal (m : Int) (s : Nat) :
    (dropZeros m s).2 = 0 ∨ (dropZeros m s).1 % 10 ≠ 0 := by
  fun_induction dropZeros m s with
  | case1 m => exact .inl rfl
  | case2 m s hzero ih => exact ih
  | case3 m s hnonzero => exact .inr hnonzero

theorem normalize_equiv (d : Decimal) : d.normalize ≈ d := dropZeros_value d.scale_le

theorem normal_normalize (d : Decimal) : d.normalize.Normal := dropZeros_normal _ _

/-! ### Normal forms -/

namespace Normal

/-- A normal form has no more places than any decimal with its value. -/
theorem scale_le (ha : a.Normal) (h : a ≈ b) : a.scale ≤ b.scale := by
  by_contra hlt
  rw [Nat.not_le] at hlt
  obtain ⟨k, hk⟩ : ∃ k, a.scale = b.scale + (k + 1) := ⟨a.scale - b.scale - 1, by omega⟩
  have hsplit : 28 - b.scale = k + 1 + (28 - a.scale) := by
    have := a.scale_le
    omega
  -- at the scale of `a` the mantissa of `b` gets zeros at its end
  have hmantissa : a.mantissa = b.mantissa * tenPow k * 10 := by
    have hpos : (tenPow (28 - a.scale) : Int) ≠ 0 := by
      have := tenPow_pos (28 - a.scale)
      omega
    have hunits : a.mantissa * tenPow (28 - a.scale) = b.mantissa * tenPow (28 - b.scale) := h
    rw [hsplit, tenPow_add, tenPow_succ, Int.natCast_mul, Int.natCast_mul, ← Int.mul_assoc,
      ← Int.mul_assoc] at hunits
    exact Int.eq_of_mul_eq_mul_right hpos hunits
  rcases ha with hzero | hnonzero
  · omega
  · omega

/-- Two normal forms with one value are the same. -/
theorem eq_of_equiv (ha : a.Normal) (hb : b.Normal) (h : a ≈ b) : a = b := by
  have hscale : a.scale = b.scale :=
    Nat.le_antisymm (ha.scale_le h) (hb.scale_le (Setoid.symm h))
  have hmantissa : a.mantissa = b.mantissa := by
    have hunits : a.mantissa * tenPow (28 - a.scale) = b.mantissa * tenPow (28 - b.scale) := h
    have hpos : (tenPow (28 - b.scale) : Int) ≠ 0 := by
      have := tenPow_pos (28 - b.scale)
      omega
    rw [hscale] at hunits
    exact Int.eq_of_mul_eq_mul_right hpos hunits
  obtain ⟨_, _, _, _⟩ := a
  obtain ⟨_, _, _, _⟩ := b
  simp only at hscale hmantissa
  subst hscale hmantissa
  rfl

end Normal

theorem normalize_eq_iff : a.normalize = b.normalize ↔ a ≈ b := by
  constructor
  · intro h
    have hb : a.normalize ≈ b := h ▸ b.normalize_equiv
    exact Setoid.trans (Setoid.symm a.normalize_equiv) hb
  · intro h
    refine a.normal_normalize.eq_of_equiv b.normal_normalize ?_
    exact Setoid.trans (Setoid.trans a.normalize_equiv h) (Setoid.symm b.normalize_equiv)

/-! ### What is written of them -/

/-- A decimal can be read off what is written of it. -/
theorem toChars_injective : Function.Injective toChars := by
  intro a b h
  have hread := congrArg readPlain? h
  rw [readPlain?_toChars, readPlain?_toChars] at hread
  exact Option.some.inj hread

/-- **Written normal forms tell values apart**, and nothing else. -/
theorem toChars_normalize_eq_iff :
    a.normalize.toChars = b.normalize.toChars ↔ a ≈ b :=
  toChars_injective.eq_iff.trans normalize_eq_iff

/-- Nothing but digits, a point and a sign is written. -/
theorem mem_toChars {c : Char} (h : c ∈ d.toChars) : c.isDigit ∨ c = '.' ∨ c = '-' := by
  rw [toChars_eq, unsignedChars, List.mem_append, List.mem_append] at h
  rcases h with hsign | hwhole | hfraction
  · split at hsign
    · exact .inr (.inr (List.mem_singleton.mp hsign))
    · cases hsign
  · exact .inl (Text.isDigit_of_mem_toDigits hwhole)
  · split at hfraction
    · cases hfraction
    · rcases List.mem_cons.mp hfraction with hpoint | hdigit
      · exact .inr (.inl hpoint)
      · exact .inl (paddedDigits_isDigit c hdigit)

theorem toChars_ne_nil (d : Decimal) : d.toChars ≠ [] := by
  rw [toChars_eq, unsignedChars]
  simp

end MarketDepth.Decimal
