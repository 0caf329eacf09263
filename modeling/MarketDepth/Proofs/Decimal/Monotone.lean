/-
MarketDepth/Proofs/Decimal/Monotone.lean

Rounding keeps the order.

A result that lies next to its exact value (`Decimal.Faithful`) need not keep the order:
of two values between the same neighbours the smaller one might go up and the larger one
down.  It does not happen, because every result is rounded to the nearest decimal at the
most places that fit.  At equal numbers of places this is the order of rounded quotients
(`roundHalfEven_mono`), where a half needs care; and the smaller value never has fewer
places than the larger one, unless it needs no more (`Decimal.Fitted.mono`).

An operation that rounds to the nearest decimal (`Decimal.RoundsTo`) therefore keeps the
order of its exact results, and where it has an answer for one value it has an answer for
all smaller ones.

Main results: `Decimal.add?_mono`, `Decimal.sub?_mono` and `Decimal.mul?_mono`, for results
that are not negative.
-/
import MarketDepth.Proofs.Decimal.Faithful

namespace MarketDepth

/-! ### Quotients -/

section Rounding

variable {m m' k : Int} {d d' : Nat}

/-- Half a unit above an even number is rounded back to it. -/
theorem lt_roundHalfEven_iff (hd : 0 < d) (heven : k % 2 = 0) :
    k < roundHalfEven m d ↔ (2 * k + 1) * d < 2 * m := by
  have hdiv := Int.ediv_mul_add_emod m d
  have hpos := Int.emod_nonneg m (b := d) (by omega)
  have hlt := Int.emod_lt_of_pos m (b := d) (by omega)
  have hparity := Int.emod_two_eq (m / d)
  rw [Int.add_mul, Int.mul_assoc]
  unfold roundHalfEven
  dsimp only
  rcases Int.lt_trichotomy (m / d) k with hbelow | heq | habove
  · -- from further below, rounding gets to `k` at most
    have hmul : (m / d + 1) * d ≤ k * d := Int.mul_le_mul_of_nonneg_right hbelow (by omega)
    rw [Int.add_mul] at hmul
    split
    · omega
    · split <;> omega
  · rw [heq] at hdiv ⊢
    split
    · omega
    · split <;> omega
  · have hmul : (k + 1) * d ≤ m / d * d := Int.mul_le_mul_of_nonneg_right habove (by omega)
    rw [Int.add_mul] at hmul
    split
    · omega
    · split <;> omega

/-- Rounding keeps the order of quotients. -/
theorem roundHalfEven_mono (hd : 0 < d) (hd' : 0 < d') (h : m * d' ≤ m' * d) :
    roundHalfEven m d ≤ roundHalfEven m' d' := by
  have hpos : (0 : Int) < d := by exact_mod_cast hd
  have hpos' : (0 : Int) < d' := by exact_mod_cast hd'
  generalize hk : roundHalfEven m d = k
  -- an even number is reached from half a unit below it, an odd one only from closer by
  rcases Int.emod_two_eq k with heven | hodd
  · have hreach := (le_roundHalfEven_iff hd heven).mp hk.ge
    refine (le_roundHalfEven_iff hd' heven).mpr ?_
    refine Int.le_of_mul_le_mul_right ?_ hpos
    calc (2 * k - 1) * d' * d
      _ = (2 * k - 1) * d * d' := Int.mul_right_comm _ _ _
      _ ≤ 2 * m * d' := Int.mul_le_mul_of_nonneg_right hreach hpos'.le
      _ = 2 * (m * d') := Int.mul_assoc _ _ _
      _ ≤ 2 * (m' * d) := Int.mul_le_mul_of_nonneg_left h (by decide)
      _ = 2 * m' * d := (Int.mul_assoc _ _ _).symm
  · have hbelow : k - 1 < roundHalfEven m d := by omega
    have hreach := (lt_roundHalfEven_iff hd (by omega)).mp hbelow
    suffices hnext : k - 1 < roundHalfEven m' d' by omega
    refine (lt_roundHalfEven_iff hd' (by omega)).mpr ?_
    refine Int.lt_of_mul_lt_mul_right ?_ hpos.le
    calc (2 * (k - 1) + 1) * d' * d
      _ = (2 * (k - 1) + 1) * d * d' := Int.mul_right_comm _ _ _
      _ < 2 * m * d' := Int.mul_lt_mul_of_pos_right hreach hpos'
      _ = 2 * (m * d') := Int.mul_assoc _ _ _
      _ ≤ 2 * (m' * d) := Int.mul_le_mul_of_nonneg_left h (by decide)
      _ = 2 * m' * d := (Int.mul_assoc _ _ _).symm

end Rounding

namespace Decimal

variable {a b a' b' d d' : Decimal} {m m' : Int} {s s' p q : Nat} {r r' : Option Decimal} {x x' : ℚ}

/-! ### Fitting a result -/

/-- The larger value is the larger number at as many places, and at more places even more so. -/
theorem round_le_round (hm : 0 ≤ m) (h : (m : ℚ) / 10 ^ s ≤ m' / 10 ^ s') (hp : p ≤ s)
    (hq : q ≤ s') (hpq : p ≤ q) :
    roundHalfEven m (tenPow (s - p)) ≤ roundHalfEven m' (tenPow (s' - q)) := by
  refine roundHalfEven_mono (tenPow_pos _) (tenPow_pos _) ?_
  have hsplit : (10 : ℚ) ^ s = 10 ^ p * 10 ^ (s - p) := by rw [← pow_add, Nat.add_sub_cancel' hp]
  have hsplit' : (10 : ℚ) ^ s' = 10 ^ q * 10 ^ (s' - q) := by
    rw [← pow_add, Nat.add_sub_cancel' hq]
  have hplaces : (10 : ℚ) ^ p ≤ 10 ^ q := pow_le_pow_right₀ (by norm_num) hpq
  have hnonneg : (0 : ℚ) ≤ m := by exact_mod_cast hm
  rw [div_le_div_iff₀ (by positivity) (by positivity), hsplit, hsplit'] at h
  have hcross : (m * 10 ^ (s' - q) : ℚ) * 10 ^ p ≤ m' * 10 ^ (s - p) * 10 ^ p := by
    calc (m * 10 ^ (s' - q) : ℚ) * 10 ^ p
      _ ≤ m * 10 ^ (s' - q) * 10 ^ q := mul_le_mul_of_nonneg_left hplaces (by positivity)
      _ = m * (10 ^ q * 10 ^ (s' - q)) := by ring
      _ ≤ m' * (10 ^ p * 10 ^ (s - p)) := h
      _ = m' * 10 ^ (s - p) * 10 ^ p := by ring
  have hcross : (m * 10 ^ (s' - q) : ℚ) ≤ m' * 10 ^ (s - p) :=
    le_of_mul_le_mul_right hcross (by positivity)
  rw [← cast_tenPow, ← cast_tenPow] at hcross
  exact_mod_cast hcross

/-- Fitted values keep their order. -/
theorem Fitted.mono (hm : 0 ≤ m) (h : Fitted m s d) (h' : Fitted m' s' d')
    (hle : (m : ℚ) / 10 ^ s ≤ m' / 10 ^ s') : d ≤ d' := by
  rw [le_iff_toRat]
  rcases Nat.lt_trichotomy d.scale d'.scale with hfewer | heq | hmore
  · -- the smaller value needs no more places, or there would have been room for one
    rcases h.full with hmost | hexact | ⟨hlt, hnone⟩
    · have := d'.scale_le
      omega
    · have hvalue : d.toRat = m / 10 ^ s := by
        rw [toRat, h.mantissa, hexact, Nat.sub_self, tenPow_zero, roundHalfEven_one]
      exact h'.closest.faithful.below d (hvalue.le.trans hle)
    · have hround := round_le_round hm hle hlt h'.places hfewer
      rw [← h'.mantissa] at hround
      have hfits := d'.mantissa_lt
      have hreached := hnone.trans hround
      omega
  · have hround := round_le_round hm hle h.places h'.places heq.le
    rw [← h.mantissa, ← h'.mantissa] at hround
    rw [toRat, toRat, heq]
    exact div_le_div_of_nonneg_right (by exact_mod_cast hround) (by positivity)
  · rcases h'.closest.exact_or_lt hmore with hexact | ⟨hlt, -⟩
    · exact h.closest.faithful.above d' (hexact.symm ▸ hle)
    · exact hlt.le

/-! ### Operations -/

/-- A value is out of range from half a unit below the limit. -/
theorem nearest?_eq_none_iff_le (hm : 0 ≤ m) :
    nearest? m s = none ↔ (limit : ℚ) - 1 / 2 ≤ m / 10 ^ s := by
  have hcast : (2 * limit - 1) * tenPow s ≤ 2 * m ↔
      ((2 * limit - 1) * tenPow s : ℚ) ≤ 2 * m := by exact_mod_cast Iff.rfl
  have hhalf : ((2 * limit - 1) * tenPow s : ℚ) = 2 * ((limit - 1 / 2) * 10 ^ s) := by
    rw [cast_tenPow]
    ring
  rw [nearest?_eq_none_iff hm, hcast, hhalf, le_div_iff₀ (by positivity)]
  exact mul_le_mul_iff_of_pos_left (by norm_num)

/-- The operation answers with the decimal nearest to an exact result that is not negative,
or with another decimal of the same value. -/
def RoundsTo (r : Option Decimal) (x : ℚ) : Prop :=
  ∃ (m : Int) (s : Nat), 0 ≤ m ∧ (m : ℚ) / 10 ^ s = x ∧ r.map toRat = (nearest? m s).map toRat

theorem RoundsTo.of_zero : RoundsTo (some zero) 0 :=
  ⟨0, 0, le_refl 0, by norm_num, congrArg _ (nearest?_self zero).symm⟩

/-- An answer is next to the exact result. -/
theorem RoundsTo.faithful (h : RoundsTo (some d) x) : Faithful d x := by
  obtain ⟨m, s, hm, rfl, hr⟩ := h
  rw [Option.map_some, eq_comm, Option.map_eq_some_iff] at hr
  obtain ⟨e, he, hvalue⟩ := hr
  exact (nearest?_faithful hm he).congr hvalue.symm

/-- Such operations keep the order of the exact results, and where one has an answer, it has
one for every smaller result. -/
theorem RoundsTo.mono (h : RoundsTo r x) (h' : RoundsTo r' x') (hle : x ≤ x')
    (hd' : r' = some d') : ∃ d, r = some d ∧ d ≤ d' := by
  obtain ⟨m, s, hm, rfl, hr⟩ := h
  obtain ⟨m', s', hm', rfl, hr'⟩ := h'
  rw [hd', Option.map_some, eq_comm, Option.map_eq_some_iff] at hr'
  obtain ⟨e', he', hvalue'⟩ := hr'
  have hfits' : ¬(limit : ℚ) - 1 / 2 ≤ m' / 10 ^ s' := by
    rw [← nearest?_eq_none_iff_le hm', he']
    simp
  obtain ⟨e, he⟩ : ∃ e, nearest? m s = some e := by
    rw [← Option.ne_none_iff_exists', ne_eq, nearest?_eq_none_iff_le hm]
    exact fun hlarge => hfits' (hlarge.trans hle)
  rw [he, Option.map_some, Option.map_eq_some_iff] at hr
  obtain ⟨d, hd, hvalue⟩ := hr
  refine ⟨d, hd, ?_⟩
  rw [le_iff_toRat, hvalue, ← hvalue', ← le_iff_toRat]
  exact (nearest?_fitted hm he).mono hm (nearest?_fitted hm' he') hle

theorem add?_roundsTo (h : 0 ≤ a.toRat + b.toRat) : RoundsTo (a.add? b) (a.toRat + b.toRat) := by
  obtain ⟨m, s, hm, hadd, hvalue⟩ := add?_eq_nearest? h
  exact ⟨m, s, hm, hvalue, by rw [hadd]⟩

theorem sub?_roundsTo (h : b.toRat ≤ a.toRat) : RoundsTo (a.sub? b) (a.toRat - b.toRat) := by
  have hvalue : a.toRat - b.toRat = a.toRat + b.neg.toRat := by rw [toRat_neg, sub_eq_add_neg]
  rw [hvalue]
  exact add?_roundsTo (by rw [← hvalue]; exact sub_nonneg.mpr h)

/-- A product that vanishes is nearest to zero. -/
theorem Vanishes.nearest? (h : Vanishes a b) (hm : 0 ≤ a.mantissa * b.mantissa) :
    (nearest? (a.mantissa * b.mantissa) (a.scale + b.scale)).map toRat = some 0 := by
  obtain ⟨ha, hb, hscale⟩ := h
  obtain ⟨m, hproduct⟩ : ∃ m, m = a.mantissa * b.mantissa := ⟨_, rfl⟩
  rw [← hproduct] at hm ⊢
  have hsmall : m.natAbs < twoPow 32 * twoPow 32 := by
    rw [hproduct, Int.natAbs_mul]
    exact Nat.mul_lt_mul'' ha hb
  have hunit : tenPow 20 ≤ tenPow (a.scale + b.scale - 28) := tenPow_le_tenPow (by omega)
  have hsize : 2 * (twoPow 32 * twoPow 32) < tenPow 20 := by decide
  have hzero : roundHalfEven m (tenPow (a.scale + b.scale - 28)) = 0 := by
    have hdiv : m / tenPow (a.scale + b.scale - 28) = 0 := Int.ediv_eq_zero_of_lt hm (by omega)
    have hmod : m % tenPow (a.scale + b.scale - 28) = m := Int.emod_eq_of_lt hm (by omega)
    unfold roundHalfEven
    dsimp only
    rw [hdiv, hmod, if_pos (by omega)]
  have hplaces : min (a.scale + b.scale) 28 = 27 + 1 := by omega
  unfold Decimal.nearest?
  rw [hplaces, nearestAt?, hzero]
  simp [of?, toRat]

theorem mul?_roundsTo (ha : 0 ≤ a.toRat) (hb : 0 ≤ b.toRat) :
    RoundsTo (a.mul? b) (a.toRat * b.toRat) := by
  have hm : 0 ≤ a.mantissa * b.mantissa := Int.mul_nonneg (mantissa_nonneg ha) (mantissa_nonneg hb)
  have hvalue : ((a.mantissa * b.mantissa : Int) : ℚ) / 10 ^ (a.scale + b.scale) =
      a.toRat * b.toRat := by
    rw [toRat, toRat, div_mul_div_comm, Int.cast_mul, pow_add]
  unfold mul?
  split
  · next hzero =>
    rcases hzero with hzero | hzero | hsmall
    · rw [isZero_iff_toRat.mp hzero, zero_mul]
      exact .of_zero
    · rw [isZero_iff_toRat.mp hzero, mul_zero]
      exact .of_zero
    · refine ⟨_, _, hm, hvalue, ?_⟩
      rw [hsmall.nearest? hm, Option.map_some, toRat_zero]
  · exact ⟨_, _, hm, hvalue, rfl⟩

theorem mul?_nonneg (ha : 0 ≤ a.toRat) (hb : 0 ≤ b.toRat) (h : a.mul? b = some d) :
    0 ≤ d.toRat := by
  have hrounds := mul?_roundsTo ha hb
  rw [h] at hrounds
  rw [← toRat_zero]
  apply hrounds.faithful.below
  rw [toRat_zero]
  exact mul_nonneg ha hb

/-! ### Saturating -/

/-- A product is not negative either where it is too large. -/
theorem mulSat_nonneg (ha : 0 ≤ a.toRat) (hb : 0 ≤ b.toRat) : 0 ≤ (a.mulSat b).toRat := by
  unfold mulSat
  cases hmul : a.mul? b with
  | some d => exact mul?_nonneg ha hb hmul
  | none =>
    have hsign : 0 ≤ a.mantissa * b.mantissa :=
      Int.mul_nonneg (mantissa_nonneg ha) (mantissa_nonneg hb)
    rw [Option.getD_none, bound, if_neg (Int.not_lt.mpr hsign), toRat_greatest]
    norm_num [limit]

theorem addSat_nonneg (ha : 0 ≤ a.toRat) (hb : 0 ≤ b.toRat) : .zero ≤ a.addSat b := by
  apply le_addSat ha hb
  rw [toRat_zero]
  exact add_nonneg ha hb

/-! ### Larger operands -/

theorem add?_mono (ha : 0 ≤ a.toRat) (hb : 0 ≤ b.toRat) (haa' : a ≤ a') (hbb' : b ≤ b')
    (h' : a'.add? b' = some d') : ∃ d, a.add? b = some d ∧ d ≤ d' := by
  rw [le_iff_toRat] at haa' hbb'
  have hle : a.toRat + b.toRat ≤ a'.toRat + b'.toRat := add_le_add haa' hbb'
  have hnonneg : 0 ≤ a.toRat + b.toRat := add_nonneg ha hb
  exact (add?_roundsTo hnonneg).mono (add?_roundsTo (hnonneg.trans hle)) hle h'

theorem sub?_mono (h : b.toRat ≤ a.toRat) (hle : a.toRat - b.toRat ≤ a'.toRat - b'.toRat)
    (h' : a'.sub? b' = some d') : ∃ d, a.sub? b = some d ∧ d ≤ d' := by
  have hnonneg : 0 ≤ a.toRat - b.toRat := sub_nonneg.mpr h
  have h₁ : b'.toRat ≤ a'.toRat := sub_nonneg.mp (hnonneg.trans hle)
  exact (sub?_roundsTo h).mono (sub?_roundsTo h₁) hle h'

theorem mul?_mono (ha : 0 ≤ a.toRat) (hb : 0 ≤ b.toRat) (haa' : a ≤ a') (hbb' : b ≤ b')
    (h' : a'.mul? b' = some d') : ∃ d, a.mul? b = some d ∧ d ≤ d' := by
  rw [le_iff_toRat] at haa' hbb'
  have ha' : 0 ≤ a'.toRat := ha.trans haa'
  have hle : a.toRat * b.toRat ≤ a'.toRat * b'.toRat := mul_le_mul haa' hbb' hb ha'
  exact (mul?_roundsTo ha hb).mono (mul?_roundsTo ha' (hb.trans hbb')) hle h'

end Decimal

end MarketDepth
