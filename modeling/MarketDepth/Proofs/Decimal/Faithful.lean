/-
MarketDepth/Proofs/Decimal/Faithful.lean

Rounding never passes over a decimal.

A result that has to be rounded becomes a decimal next to it: no other decimal lies in
between (`Decimal.Faithful`).  This is not clear at once, since decimals of all scales
count and the result has one; but the result has as many places as fit, and a decimal
with more places than that is too small to come near it (`Decimal.Closest.faithful`).

Two things follow for every operation, and are all that is needed of it
(`Decimal.Rounded`).  A result that some decimal can hold is not changed, at whatever
scales the operands are, and a result between two decimals stays between them.

Main results: `Decimal.add?_rounded`, `Decimal.sub?_rounded` and
`Decimal.mul?_rounded`, for results that are not negative, and `Decimal.le_addSat`.
-/
import MarketDepth.Proofs.Decimal.Values

namespace MarketDepth

/-! ### Whole numbers -/

/-- No whole number lies between `m` and the value. -/
structure Adjacent (m : Int) (v : ℚ) : Prop where
  below : ∀ i : Int, i ≤ v → i ≤ m
  above : ∀ i : Int, v ≤ i → m ≤ i

section Rounding

variable {i m : Int} {d : Nat} {v : ℚ}

theorem Adjacent.of_eq (h : m = v) : Adjacent m v where
  below := by
    intro i hi
    rw [← h] at hi
    exact_mod_cast hi
  above := by
    intro i hi
    rw [← h] at hi
    exact_mod_cast hi

theorem le_roundHalfEven (hd : 0 < d) (h : i * d ≤ m) : i ≤ roundHalfEven m d := by
  obtain ⟨hlow, -⟩ := roundHalfEven_near (m := m) hd
  by_contra hless
  have hmul : (roundHalfEven m d + 1) * d ≤ i * d :=
    Int.mul_le_mul_of_nonneg_right (by omega) (by omega)
  rw [Int.add_mul] at hmul
  omega

theorem roundHalfEven_le (hd : 0 < d) (h : m ≤ i * d) : roundHalfEven m d ≤ i := by
  obtain ⟨-, hhigh⟩ := roundHalfEven_near (m := m) hd
  by_contra hmore
  have hmul : (i + 1) * d ≤ roundHalfEven m d * d :=
    Int.mul_le_mul_of_nonneg_right (by omega) (by omega)
  rw [Int.add_mul] at hmul
  omega

theorem roundHalfEven_adjacent (hd : 0 < d) (h : v * d = m) : Adjacent (roundHalfEven m d) v where
  below := by
    intro i hi
    have hpos : (0 : ℚ) < d := by exact_mod_cast hd
    have hmul : (i * d : ℚ) ≤ v * d := mul_le_mul_of_nonneg_right hi hpos.le
    rw [h] at hmul
    exact le_roundHalfEven hd (by exact_mod_cast hmul)
  above := by
    intro i hi
    have hpos : (0 : ℚ) < d := by exact_mod_cast hd
    have hmul : v * d ≤ (i * d : ℚ) := mul_le_mul_of_nonneg_right hi hpos.le
    rw [h] at hmul
    exact roundHalfEven_le hd (by exact_mod_cast hmul)

end Rounding

namespace Decimal

variable {a b d e : Decimal} {m : Int} {s p : Nat} {x y : ℚ}

/-! ### Faithful rounding -/

/-- The decimal is next to a value: no decimal lies between the two. -/
structure Faithful (d : Decimal) (x : ℚ) : Prop where
  below : ∀ e : Decimal, e.toRat ≤ x → e.toRat ≤ d.toRat
  above : ∀ e : Decimal, x ≤ e.toRat → d.toRat ≤ e.toRat

theorem Faithful.of_eq (h : d.toRat = x) : Faithful d x :=
  ⟨fun _ he => h ▸ he, fun _ he => h ▸ he⟩

/-- Only the value counts. -/
theorem Faithful.congr (h : Faithful d x) (he : e.toRat = d.toRat) : Faithful e x :=
  ⟨he ▸ h.below, he ▸ h.above⟩

/-- What a decimal can hold is not changed. -/
theorem Faithful.eq (h : Faithful d x) (he : e.toRat = x) : d.toRat = x :=
  le_antisymm (he ▸ h.above e he.ge) (he ▸ h.below e he.le)

/-- `m` at `s` places is a value rounded to a whole number at these places, and there is
no room for another place, unless there are 28 already or nothing is left over. -/
structure Closest (x : ℚ) (m : Int) (s : Nat) : Prop where
  adjacent : Adjacent m (x * 10 ^ s)
  full : s = 28 ∨ m = x * 10 ^ s ∨ (limit : ℚ) ≤ 10 * m ∧ (limit : ℚ) - 1 < x * 10 ^ (s + 1)

/-- The first decimal is not on the other side of the second one than the value. -/
def SameSide (x : ℚ) (d e : Decimal) : Prop :=
  (e.toRat ≤ x → e.toRat ≤ d.toRat) ∧ (x ≤ e.toRat → d.toRat ≤ e.toRat)

/-- A decimal with no more places than the result is a whole number at its places. -/
theorem Closest.sameSide_of_fewer (h : Closest x d.mantissa d.scale) (hscale : e.scale ≤ d.scale) :
    SameSide x d e := by
  have hpos : (0 : ℚ) < 10 ^ d.scale := by positivity
  have he := mantissaAt_eq hscale
  constructor
  · intro hle
    have hi : (e.mantissaAt d.scale : ℚ) ≤ d.mantissa := by
      refine Int.cast_le.mpr (h.adjacent.below _ ?_)
      rw [he]
      exact mul_le_mul_of_nonneg_right hle hpos.le
    rw [he, d.mantissa_eq] at hi
    exact le_of_mul_le_mul_right hi hpos
  · intro hle
    have hi : (d.mantissa : ℚ) ≤ e.mantissaAt d.scale := by
      refine Int.cast_le.mpr (h.adjacent.above _ ?_)
      rw [he]
      exact mul_le_mul_of_nonneg_right hle hpos.le
    rw [he, d.mantissa_eq] at hi
    exact le_of_mul_le_mul_right hi hpos

/-- One with more places is smaller, unless nothing was left over. -/
theorem Closest.exact_or_lt (h : Closest x d.mantissa d.scale) (hscale : d.scale < e.scale) :
    d.toRat = x ∨ e.toRat < d.toRat ∧ e.toRat < x := by
  rcases h.full with hmost | hexact | ⟨hmantissa, hvalue⟩
  · have := e.scale_le
    omega
  · rw [d.mantissa_eq] at hexact
    exact Or.inl (mul_right_cancel₀ (by positivity) hexact)
  · right
    have hsmall : e.toRat * 10 ^ (d.scale + 1) ≤ limit - 1 := e.toRat_mul_le hscale
    have hnext : (0 : ℚ) < 10 ^ (d.scale + 1) := by positivity
    have hd : d.toRat * 10 ^ (d.scale + 1) = 10 * d.mantissa := by
      rw [d.mantissa_eq, pow_succ]
      ring
    have hresult : e.toRat * 10 ^ (d.scale + 1) < d.toRat * 10 ^ (d.scale + 1) := by linarith
    have hexact : e.toRat * 10 ^ (d.scale + 1) < x * 10 ^ (d.scale + 1) := by linarith
    exact ⟨lt_of_mul_lt_mul_right hresult hnext.le, lt_of_mul_lt_mul_right hexact hnext.le⟩

/-- So it is too small to lie between. -/
theorem Closest.sameSide_of_more (h : Closest x d.mantissa d.scale) (hscale : d.scale < e.scale) :
    SameSide x d e := by
  rcases h.exact_or_lt hscale with rfl | ⟨hresult, hexact⟩
  · exact ⟨id, id⟩
  · exact ⟨fun _ => hresult.le, fun hle => absurd hexact (not_lt.mpr hle)⟩

theorem Closest.faithful (h : Closest x d.mantissa d.scale) : Faithful d x := by
  have hsame : ∀ e, SameSide x d e := by
    intro e
    rcases le_or_gt e.scale d.scale with hscale | hscale
    · exact h.sameSide_of_fewer hscale
    · exact h.sameSide_of_more hscale
  exact ⟨fun e => (hsame e).1, fun e => (hsame e).2⟩

/-! ### Fitting a result -/

theorem of?_eq_some (h : of? m s = some d) : d.mantissa = m ∧ d.scale = s := by
  unfold of? at h
  split at h
  · obtain rfl := Option.some.inj h
    exact ⟨rfl, rfl⟩
  · cases h

/-- Where one more place does not fit, the mantissa is almost a tenth of the limit. -/
theorem limit_le_round {n : Nat} (hn : 0 < n) (h : (limit : Int) ≤ roundHalfEven m n) :
    (limit : Int) ≤ 10 * roundHalfEven m (n * 10) ∧ (2 * limit - 1) * n ≤ 2 * m := by
  have hm : (2 * (limit : Int) - 1) * n ≤ 2 * m := (le_roundHalfEven_iff hn (by decide)).mp h
  have hlimit : (limit : Int) = 79228162514264337593543950336 := rfl
  -- a tenth of the limit, up to the next even number
  have htenth : (7922816251426433759354395034 : Int) ≤ roundHalfEven m (n * 10) := by
    refine (le_roundHalfEven_iff (by omega) (by decide)).mpr ?_
    rw [hlimit] at hm
    push_cast
    omega
  exact ⟨by omega, hm⟩

theorem round_closest (hp : p ≤ s)
    (hfull : p = 28 ∨ p = s ∨ p < s ∧ limit ≤ roundHalfEven m (tenPow (s - (p + 1)))) :
    Closest (m / 10 ^ s) (roundHalfEven m (tenPow (s - p))) p := by
  have hvalue : ∀ k ≤ s, (m : ℚ) / 10 ^ s * 10 ^ k = m / 10 ^ (s - k) := by
    intro k hk
    have hsplit : (10 : ℚ) ^ s = 10 ^ k * 10 ^ (s - k) := by
      rw [← pow_add, Nat.add_sub_cancel' hk]
    rw [hsplit]
    field_simp
  have hpow : ∀ k, (0 : ℚ) < 10 ^ k := fun k => by positivity
  refine ⟨?_, ?_⟩
  · apply roundHalfEven_adjacent (tenPow_pos _)
    rw [hvalue p hp, cast_tenPow, div_mul_cancel₀ _ (hpow _).ne']
  · rcases hfull with hmost | hexact | ⟨hlt, hnext⟩
    · exact Or.inl hmost
    · right; left
      rw [hvalue p hp, hexact, Nat.sub_self, tenPow_zero, roundHalfEven_one, pow_zero, div_one]
    · right; right
      have hplace : s - p = s - (p + 1) + 1 := by omega
      obtain ⟨hmantissa, hm⟩ := limit_le_round (tenPow_pos _) hnext
      rw [← tenPow_succ, ← hplace] at hmantissa
      refine ⟨by exact_mod_cast hmantissa, ?_⟩
      rw [hvalue (p + 1) hlt, lt_div_iff₀ (hpow _), ← cast_tenPow]
      have hm : (2 * (limit : ℚ) - 1) * tenPow (s - (p + 1)) ≤ 2 * m := by exact_mod_cast hm
      have hpos : (0 : ℚ) < tenPow (s - (p + 1)) := by exact_mod_cast tenPow_pos _
      linarith

/-- The decimal is `m / 10 ^ s` rounded at its own places, and there was no room for
another place, unless there are 28 already or no more are wanted. -/
structure Fitted (m : Int) (s : Nat) (d : Decimal) : Prop where
  places : d.scale ≤ s
  mantissa : d.mantissa = roundHalfEven m (tenPow (s - d.scale))
  full : d.scale = 28 ∨ d.scale = s ∨
    d.scale < s ∧ limit ≤ roundHalfEven m (tenPow (s - (d.scale + 1)))

theorem Fitted.closest (h : Fitted m s d) : Closest (m / 10 ^ s) d.mantissa d.scale := by
  rw [h.mantissa]
  exact round_closest h.places h.full

theorem nearestAt?_fitted (hm : 0 ≤ m) (hs : p ≤ s) (hp : p ≤ 28)
    (hfull : p = 28 ∨ p = s ∨ p < s ∧ limit ≤ roundHalfEven m (tenPow (s - (p + 1))))
    (h : nearestAt? m s p = some d) : Fitted m s d := by
  induction p with
  | zero =>
    obtain ⟨hmantissa, hscale⟩ := of?_eq_some h
    exact ⟨hscale ▸ hs, hscale ▸ hmantissa, hscale ▸ hfull⟩
  | succ p ih =>
    rw [nearestAt?, Option.orElse_eq_orElse, Option.orElse_eq_or, Option.or_eq_some_iff] at h
    rcases h with hfits | ⟨hnone, hfewer⟩
    · obtain ⟨hmantissa, hscale⟩ := of?_eq_some hfits
      exact ⟨hscale ▸ hs, hscale ▸ hmantissa, hscale ▸ hfull⟩
    · refine ih (by omega) (by omega) (Or.inr (Or.inr ⟨hs, ?_⟩)) hfewer
      have hnonneg := roundHalfEven_nonneg (tenPow_pos (s - (p + 1))) hm
      have hlarge := of?_eq_none_iff.mp hnone
      omega

theorem nearest?_fitted (hm : 0 ≤ m) (h : nearest? m s = some d) : Fitted m s d :=
  nearestAt?_fitted hm (Nat.min_le_left _ _) (Nat.min_le_right _ _) (by omega) h

/-! ### Rounded results -/

/-- An operation rounds its exact result: if some decimal is as large, there is an
answer, and it is next to the exact result. -/
def Rounded (r : Option Decimal) (x : ℚ) : Prop :=
  ∀ e : Decimal, x ≤ e.toRat → ∃ d, r = some d ∧ Faithful d x

namespace Rounded

variable {r : Option Decimal} {lo hi : Decimal}

theorem of_eq (h : d.toRat = x) : Rounded (some d) x :=
  fun _ _ => ⟨d, rfl, .of_eq h⟩

/-- A result that a decimal can hold is not changed. -/
theorem eq (h : Rounded r x) (he : e.toRat = x) : ∃ d, r = some d ∧ d.toRat = x := by
  obtain ⟨d, hr, hd⟩ := h e he.ge
  exact ⟨d, hr, hd.eq he⟩

/-- A result between two decimals stays between them. -/
theorem between (h : Rounded r x) (hlo : lo.toRat ≤ x) (hhi : x ≤ hi.toRat) :
    ∃ d, r = some d ∧ lo ≤ d ∧ d ≤ hi := by
  obtain ⟨d, hr, hd⟩ := h hi hhi
  exact ⟨d, hr, le_iff_toRat.mpr (hd.below lo hlo), le_iff_toRat.mpr (hd.above hi hhi)⟩

end Rounded

theorem nearest?_faithful (hm : 0 ≤ m) (h : nearest? m s = some d) : Faithful d (m / 10 ^ s) :=
  (nearest?_fitted hm h).closest.faithful

theorem nearest?_rounded (hm : 0 ≤ m) : Rounded (nearest? m s) (m / 10 ^ s) := by
  intro e he
  have hsome : (nearest? m s).isSome := by
    refine nearest?_isSome ?_
    have hle : (m : ℚ) / 10 ^ s ≤ limit - 1 := he.trans e.toRat_le
    rw [div_le_iff₀ (by positivity), ← cast_tenPow] at hle
    have hle : m ≤ (limit - 1) * tenPow s := by exact_mod_cast hle
    have hcast : ((limit - 1 : Nat) * tenPow s : Int) = (limit - 1) * tenPow s := rfl
    omega
  obtain ⟨d, hd⟩ := Option.isSome_iff_exists.mp hsome
  exact ⟨d, hd, nearest?_faithful hm hd⟩

/-! ### Sums and differences -/

/-- A sum is the exact sum, rounded; an operand that is zero makes no exception. -/
theorem add?_eq_nearest? (h : 0 ≤ a.toRat + b.toRat) :
    ∃ m s, 0 ≤ m ∧ a.add? b = nearest? m s ∧ (m : ℚ) / 10 ^ s = a.toRat + b.toRat := by
  have hnonneg : ∀ (m : Int) (s : Nat), (m : ℚ) / 10 ^ s = a.toRat + b.toRat → 0 ≤ m := by
    intro m s hvalue
    have hm : (m : ℚ) = (a.toRat + b.toRat) * 10 ^ s := by
      rw [← hvalue, div_mul_cancel₀ _ (by positivity)]
    have hm : (0 : ℚ) ≤ m := by
      rw [hm]
      positivity
    exact_mod_cast hm
  suffices hsum : ∃ m s, a.add? b = nearest? m s ∧ (m : ℚ) / 10 ^ s = a.toRat + b.toRat by
    obtain ⟨m, s, hadd, hvalue⟩ := hsum
    exact ⟨m, s, hnonneg m s hvalue, hadd, hvalue⟩
  unfold add?
  split
  · next hzero =>
    refine ⟨b.mantissa, b.scale, (nearest?_self b).symm, ?_⟩
    rw [isZero_iff_toRat.mp hzero, zero_add, toRat]
  · split
    · next hzero =>
      refine ⟨a.mantissa, a.scale, (nearest?_self a).symm, ?_⟩
      rw [isZero_iff_toRat.mp hzero, add_zero, toRat]
    · refine ⟨_, _, rfl, ?_⟩
      rw [div_eq_iff (by positivity), Int.cast_add, mantissaAt_eq (Nat.le_max_left _ _),
        mantissaAt_eq (Nat.le_max_right _ _), add_mul]

theorem add?_faithful (h : 0 ≤ a.toRat + b.toRat) (hd : a.add? b = some d) :
    Faithful d (a.toRat + b.toRat) := by
  obtain ⟨m, s, hm, hadd, hvalue⟩ := add?_eq_nearest? h
  rw [← hvalue]
  exact nearest?_faithful hm (hadd ▸ hd)

theorem add?_rounded (h : 0 ≤ a.toRat + b.toRat) : Rounded (a.add? b) (a.toRat + b.toRat) := by
  obtain ⟨m, s, hm, hadd, hvalue⟩ := add?_eq_nearest? h
  rw [hadd, ← hvalue]
  exact nearest?_rounded hm

theorem sub?_rounded (h : b.toRat ≤ a.toRat) : Rounded (a.sub? b) (a.toRat - b.toRat) := by
  have hvalue : a.toRat - b.toRat = a.toRat + b.neg.toRat := by rw [toRat_neg, sub_eq_add_neg]
  rw [hvalue]
  exact add?_rounded (by rw [← hvalue]; exact sub_nonneg.mpr h)

/-- No decimal up to a sum is passed over, also where the sum is too large. -/
theorem le_addSat (ha : 0 ≤ a.toRat) (hb : 0 ≤ b.toRat) (he : e.toRat ≤ a.toRat + b.toRat) :
    e ≤ a.addSat b := by
  rw [le_iff_toRat]
  cases hadd : a.add? b with
  | some d =>
    rw [addSat, hadd]
    exact (add?_faithful (add_nonneg ha hb) hadd).below e he
  | none =>
    have hsign : ¬b.mantissa < 0 := Int.not_lt.mpr (mantissa_nonneg hb)
    rw [addSat, hadd, Option.getD_none, bound, if_neg hsign, toRat_greatest]
    exact e.toRat_le

/-! ### Products -/

/-- A product that vanishes is less than a unit in the last of 28 places. -/
theorem Vanishes.lt (h : Vanishes a b) : a.toRat * b.toRat < 1 / 10 ^ 28 := by
  obtain ⟨ha, hb, hscale⟩ := h
  have hproduct : (a.mantissa * b.mantissa : ℚ) < 10 ^ 20 := by
    have hlt : (a.mantissa * b.mantissa).natAbs < twoPow 32 * twoPow 32 := by
      rw [Int.natAbs_mul]
      exact Nat.mul_lt_mul'' ha hb
    have hsize : twoPow 32 * twoPow 32 < 10 ^ 20 := by decide
    have hle : a.mantissa * b.mantissa < 10 ^ 20 := by omega
    exact_mod_cast hle
  have hpow : (10 : ℚ) ^ 48 ≤ 10 ^ (a.scale + b.scale) :=
    pow_le_pow_right₀ (by norm_num) hscale
  rw [toRat, toRat, div_mul_div_comm, ← pow_add, div_lt_div_iff₀ (by positivity) (by positivity),
    one_mul]
  calc (a.mantissa * b.mantissa : ℚ) * 10 ^ 28
    _ < 10 ^ 20 * 10 ^ 28 := mul_lt_mul_of_pos_right hproduct (by positivity)
    _ = 10 ^ 48 := by norm_num
    _ ≤ 10 ^ (a.scale + b.scale) := hpow

theorem mul?_rounded (ha : 0 ≤ a.toRat) (hb : 0 ≤ b.toRat) :
    Rounded (a.mul? b) (a.toRat * b.toRat) := by
  unfold mul?
  split
  · next hzero =>
    rcases hzero with hzero | hzero | hsmall
    · exact .of_eq (by rw [isZero_iff_toRat.mp hzero, toRat_zero, zero_mul])
    · exact .of_eq (by rw [isZero_iff_toRat.mp hzero, toRat_zero, mul_zero])
    · refine fun _ _ => ⟨zero, rfl, ?_, ?_⟩
      · intro e he
        have hunits : (e.units : ℚ) < 1 := by
          rw [units_eq_toRat, ← lt_div_iff₀ (by positivity)]
          exact lt_of_le_of_lt he hsmall.lt
        have hunits : e.units < 1 := by exact_mod_cast hunits
        rw [← le_iff_toRat, le_iff, units_zero]
        omega
      · intro e he
        rw [toRat_zero]
        exact (mul_nonneg ha hb).trans he
  · have hvalue : a.toRat * b.toRat =
        ((a.mantissa * b.mantissa : Int) : ℚ) / 10 ^ (a.scale + b.scale) := by
      rw [toRat, toRat, div_mul_div_comm, Int.cast_mul, pow_add]
    rw [hvalue]
    exact nearest?_rounded (Int.mul_nonneg (mantissa_nonneg ha) (mantissa_nonneg hb))

end Decimal

end MarketDepth
