/-
MarketDepth/Proofs/Decimal/Quotient.lean

Quotients.

Every step of a long division keeps the exact quotient: the digits so far and what is
left of the dividend, at the scale reached (`LongDivision.Divides`).  So when the
digits end, the quotient is known up to the last one, and it is rounded there like any
other result.  Where a step seems to run out of room it does not: a quotient that some
decimal reaches never has more digits in front of the point than fit.

Main results: `Decimal.div?_rounded`, for quotients that are not negative, and
`Decimal.div?_isSome`, that a decimal can always be divided by a whole number other
than zero.
-/
import MarketDepth.Decimal.Division
import MarketDepth.Proofs.Decimal.Faithful

namespace MarketDepth.Decimal

namespace LongDivision

variable {st : LongDivision} {divisor q j k n : Nat} {y : Result} {leftOver : Bool} {s : Int}
  {x v : ℚ}

/-! ### Results -/

/-- The result is a mantissa and a scale of a decimal. -/
def InBudget (y : Result) : Prop := y.1 < limit ∧ y.2 ≤ 28

/-- The result is there, within the budget, and next to a value. -/
def Gives (r : Option Result) (x : ℚ) : Prop :=
  ∃ y, r = some y ∧ InBudget y ∧ Closest x y.1 y.2

/-! ### The invariant -/

/-- What is left of the dividend, in units of the last digit. -/
def rest (divisor : Nat) (st : LongDivision) : ℚ := st.remainder / divisor

/-- A quotient under way to the exact value `x`, which is in the range of decimals. -/
structure Divides (divisor : Nat) (st : LongDivision) (x : ℚ) : Prop where
  remainder : st.remainder < divisor
  value : x * 10 ^ 28 = (st.digits + st.rest divisor) * 10 ^ st.room
  range : x ≤ limit - 1

namespace Divides

theorem divisor_pos (h : Divides divisor st x) : 0 < divisor :=
  Nat.lt_of_le_of_lt (Nat.zero_le _) h.remainder

theorem rest_nonneg (_ : Divides divisor st x) : 0 ≤ st.rest divisor :=
  div_nonneg (Nat.cast_nonneg _) (Nat.cast_nonneg _)

theorem rest_pos (h : Divides divisor st x) (hrest : st.remainder ≠ 0) : 0 < st.rest divisor := by
  have hremainder : (0 : ℚ) < st.remainder := by exact_mod_cast Nat.pos_of_ne_zero hrest
  have hdivisor : (0 : ℚ) < divisor := by exact_mod_cast h.divisor_pos
  exact div_pos hremainder hdivisor

theorem rest_lt_one (h : Divides divisor st x) : st.rest divisor < 1 := by
  rw [rest, div_lt_one (by exact_mod_cast h.divisor_pos)]
  exact_mod_cast h.remainder

/-- Places to come that would bring the scale down to zero and `j` beyond leave the
digits room for `j` more in front of the point. -/
theorem digits_lt (h : Divides divisor st x) (hj : 28 + j ≤ st.room) :
    st.digits * tenPow j < limit := by
  have hsplit : (10 : ℚ) ^ 28 * 10 ^ j ≤ 10 ^ st.room := by
    rw [← pow_add]
    exact pow_le_pow_right₀ (by norm_num) hj
  have hle : (st.digits * tenPow j : ℚ) * 10 ^ 28 ≤ x * 10 ^ 28 := by
    rw [h.value, cast_tenPow]
    calc (st.digits * 10 ^ j : ℚ) * 10 ^ 28
      _ = st.digits * (10 ^ 28 * 10 ^ j) := by ring
      _ ≤ st.digits * 10 ^ st.room := mul_le_mul_of_nonneg_left hsplit (Nat.cast_nonneg _)
      _ ≤ (st.digits + st.rest divisor) * 10 ^ st.room :=
        mul_le_mul_of_nonneg_right (le_add_of_nonneg_right h.rest_nonneg) (by positivity)
  have hle : (st.digits * tenPow j : ℚ) ≤ limit - 1 :=
    (le_of_mul_le_mul_right hle (by positivity)).trans h.range
  have hlt : (st.digits * tenPow j : ℚ) < limit := by linarith
  exact_mod_cast hlt

/-- The exact value at the scale that the digits have reached. -/
theorem value_at (h : Divides divisor st x) (hroom : st.room ≤ 28) :
    x * 10 ^ (28 - st.room) = st.digits + st.rest divisor := by
  have hsplit : (10 : ℚ) ^ 28 = 10 ^ (28 - st.room) * 10 ^ st.room := by
    rw [← pow_add, Nat.sub_add_cancel hroom]
  have hvalue := h.value
  rw [hsplit, ← mul_assoc] at hvalue
  exact mul_right_cancel₀ (by positivity) hvalue

end Divides

/-! ### Blocks of digits -/

theorem mul_tenPow_widest (h : widest q k ≠ 0) : q * tenPow (widest q k) < limit := by
  induction k with
  | zero => exact absurd rfl h
  | succ k ih =>
    unfold widest at h ⊢
    split
    · next hfits => exact hfits
    · next hfits =>
      rw [if_neg hfits] at h
      exact ih h

/-- One more digit would not have fitted. -/
theorem limit_le_of_widest_lt (h : widest q k < k) : limit ≤ q * tenPow (widest q k + 1) := by
  induction k with
  | zero => exact absurd h (Nat.not_lt_zero _)
  | succ k ih =>
    unfold widest at h ⊢
    split
    · next hfits =>
      rw [if_pos hfits] at h
      exact absurd h (Nat.lt_irrefl _)
    · next hfits =>
      rcases Nat.lt_or_eq_of_le (widest_le q k) with hless | heq
      · exact ih hless
      · rw [heq]
        exact Nat.le_of_not_lt hfits

theorem blockSize_eq (h : st.remainder ≠ 0) : st.blockSize = widest st.digits (min 9 st.room) :=
  if_neg h

theorem blockSize_le (st : LongDivision) : st.blockSize ≤ 9 := by
  have := widest_le st.digits (min 9 st.room)
  unfold blockSize
  split <;> omega

/-- A block of digits is brought down only if it fits. -/
theorem Divides.block_lt (h : Divides divisor st x) (hk : st.blockSize ≠ 0) :
    st.digits * tenPow st.blockSize < limit := by
  by_cases hrest : st.remainder = 0
  · have hsize : st.blockSize = min 9 (st.room - 28) := if_pos hrest
    exact h.digits_lt (by omega)
  · rw [blockSize_eq hrest] at hk ⊢
    exact mul_tenPow_widest hk

/-- The state after a block of digits is brought down. -/
def bring (divisor : Nat) (st : LongDivision) (k : Nat) : LongDivision :=
  ⟨st.digits * tenPow k + st.remainder * tenPow k / divisor, st.remainder * tenPow k % divisor,
    st.room - k⟩

/-- Bringing down digits keeps the exact value. -/
theorem Divides.brought (h : Divides divisor st x) (hk : k ≤ st.room) :
    Divides divisor (bring divisor st k) x where
  remainder := Nat.mod_lt _ h.divisor_pos
  value := by
    have hdivisor : (divisor : ℚ) ≠ 0 := by exact_mod_cast h.divisor_pos.ne'
    have hsplit : (10 : ℚ) ^ st.room = 10 ^ k * 10 ^ (st.room - k) := by
      rw [← pow_add, Nat.add_sub_cancel' hk]
    have hblock : (divisor : ℚ) * ↑(st.remainder * tenPow k / divisor) +
        ↑(st.remainder * tenPow k % divisor) = st.remainder * 10 ^ k := by
      rw [← cast_tenPow]
      exact_mod_cast Nat.div_add_mod (st.remainder * tenPow k) divisor
    have hnext : ↑(st.remainder * tenPow k / divisor) + (bring divisor st k).rest divisor =
        st.rest divisor * 10 ^ k := by
      show (_ : ℚ) + ↑(st.remainder * tenPow k % divisor) / divisor =
        st.remainder / divisor * 10 ^ k
      rw [div_mul_eq_mul_div, ← hblock, add_div, mul_div_cancel_left₀ _ hdivisor]
    rw [h.value, hsplit]
    show _ = ((↑(st.digits * tenPow k + st.remainder * tenPow k / divisor) : ℚ) +
      (bring divisor st k).rest divisor) * 10 ^ (st.room - k)
    rw [Nat.cast_add, Nat.cast_mul, cast_tenPow, add_assoc, hnext]
    ring
  range := h.range

/-! ### The last digit -/

/-- A quotient that reached the limit is taken back by one place, and then it fits.  It
is rounded on the digit that goes and on what `leftOver` says of the value `v` behind
it. -/
theorem narrow_gives (hs : 1 ≤ s) (hs' : s ≤ 28) (hv : x * 10 ^ s.toNat = v)
    (hlimit : (limit : ℚ) - 1 < v) (hq : limit ≤ q) (hq' : q ≤ limit + tenPow 9)
    (hbelow : ∀ i : Int, (10 * i : ℚ) ≤ v → 20 * i ≤ 2 * q + leftOver.toNat)
    (habove : ∀ i : Int, v ≤ (10 * i : ℚ) → 2 * q + leftOver.toNat ≤ 20 * i) :
    Gives (narrow q leftOver s) x := by
  have hleft : leftOver.toNat ≤ 1 := Bool.toNat_le leftOver
  -- the new last digit
  obtain ⟨m, hm⟩ : ∃ m, m = roundHalfEven (2 * q + leftOver.toNat) 20 := ⟨_, rfl⟩
  have hlow : (7922816251426433759354395034 : Int) ≤ m := by
    rw [hm, le_roundHalfEven_iff (by decide) (by decide)]
    have hlimit : limit = 79228162514264337593543950336 := rfl
    omega
  have hhigh : m ≤ limit - 1 := by
    have hsmall : 2 * (limit + tenPow 9) + 1 ≤ (limit - 1) * 20 := by decide
    rw [hm]
    exact roundHalfEven_le (by decide) (by omega)
  have hcast : ((m.toNat : Int)) = m := by omega
  have hplace : s.toNat = (s - 1).toNat + 1 := by omega
  have htenth : x * 10 ^ (s - 1).toNat = v / 10 := by
    rw [← hv, hplace, pow_succ]
    field_simp
  refine ⟨(m.toNat, (s - 1).toNat), ?_, ⟨?_, ?_⟩, ?_⟩
  · rw [hm]
    exact if_pos hs
  · show m.toNat < limit
    omega
  · show (s - 1).toNat ≤ 28
    omega
  · show Closest x (m.toNat : Int) (s - 1).toNat
    rw [hcast]
    refine ⟨⟨?_, ?_⟩, ?_⟩
    · intro i hi
      rw [htenth] at hi
      have := hbelow i (by linarith)
      rw [hm]
      exact le_roundHalfEven (by decide) (by omega)
    · intro i hi
      rw [htenth] at hi
      have := habove i (by linarith)
      rw [hm]
      exact roundHalfEven_le (by decide) (by omega)
    · right; right
      have hm' : (limit : Int) ≤ 10 * m := by
        have hlimit : limit = 79228162514264337593543950336 := rfl
        omega
      refine ⟨by exact_mod_cast hm', ?_⟩
      rw [← hplace, hv]
      exact hlimit

/-- Where no further digit can be brought down, there are 28 places, or the digits are
almost a tenth of the limit. -/
theorem full_of_blockSize (hrest : st.remainder ≠ 0) (hk : st.blockSize = 0) :
    st.room = 0 ∨ limit ≤ st.digits * 10 := by
  rw [blockSize_eq hrest] at hk
  rcases Nat.eq_zero_or_pos st.room with hroom | hroom
  · exact Or.inl hroom
  · right
    have hlimit := limit_le_of_widest_lt (q := st.digits) (k := min 9 st.room) (by omega)
    rw [hk] at hlimit
    exact hlimit

/-- The scale is not negative then: the digits would be too many. -/
theorem Divides.room_le (h : Divides divisor st x)
    (hfull : st.room = 0 ∨ limit ≤ st.digits * 10) : st.room ≤ 28 := by
  by_contra hmany
  have hlt : st.digits * 10 < limit := h.digits_lt (j := 1) (by omega)
  omega

theorem scale_eq (hroom : st.room ≤ 28) : st.scale = (28 - st.room : Nat) := by
  unfold scale
  omega

theorem Divides.lastDigit_adjacent (h : Divides divisor st x) :
    Adjacent (roundHalfEven (st.digits * divisor + st.remainder) divisor)
      (st.digits + st.rest divisor) := by
  have hdivisor : (divisor : ℚ) ≠ 0 := by exact_mod_cast h.divisor_pos.ne'
  refine roundHalfEven_adjacent h.divisor_pos ?_
  rw [rest, add_mul, div_mul_cancel₀ _ hdivisor]
  push_cast
  rfl

/-- If the rounded digits fit, they are the result. -/
theorem lastDigit_closest {m : Int} (h : Divides divisor st x) (hroom : st.room ≤ 28)
    (hfull : st.room = 0 ∨ limit ≤ st.digits * 10) (hrest : st.remainder ≠ 0)
    (hm : Adjacent m (st.digits + st.rest divisor)) : Closest x m (28 - st.room) := by
  have hvalue := h.value_at hroom
  have hpos := h.rest_pos hrest
  rw [← hvalue] at hm
  refine ⟨hm, ?_⟩
  rcases hfull with hnone | htenth
  · left
    omega
  · right; right
    have hleast : (st.digits : Int) ≤ m := by
      apply hm.below
      rw [hvalue]
      push_cast
      linarith
    have hten : (limit : ℚ) ≤ st.digits * 10 := by exact_mod_cast htenth
    have hdigit : (st.digits : ℚ) ≤ m := by exact_mod_cast hleast
    refine ⟨by linarith, ?_⟩
    rw [pow_succ, ← mul_assoc, hvalue]
    linarith

/-- If they reach the limit, which a unit in the last place is enough for, one place is
taken back. -/
theorem narrow_limit_gives (h : Divides divisor st x) (hroom : st.room ≤ 28)
    (hrest : st.remainder ≠ 0) (hlast : st.digits = limit - 1) :
    Gives (narrow limit false (28 - st.room : Nat)) x := by
  have hvalue := h.value_at hroom
  have hpos := h.rest_pos hrest
  have hless := h.rest_lt_one
  have hdigit : (st.digits : ℚ) = limit - 1 := by
    rw [hlast, Nat.cast_sub (by decide), Nat.cast_one]
  have hplace : 0 < 28 - st.room := by
    by_contra hnone
    have hwhole : 28 - st.room = 0 := by omega
    rw [hwhole, pow_zero, mul_one] at hvalue
    have := h.range
    linarith
  refine narrow_gives (by omega) (by omega) hvalue (by linarith) (by omega) (by omega) ?_ ?_
  · intro i hi
    have hi : (10 * i : ℚ) < limit := by linarith
    have hi : 10 * i < limit := by exact_mod_cast hi
    simp only [Bool.toNat_false]
    omega
  · intro i hi
    have hi : (limit : ℚ) < 10 * i + 1 := by linarith
    have hi : (limit : Int) < 10 * i + 1 := by exact_mod_cast hi
    simp only [Bool.toNat_false]
    omega

theorem roundLast_gives (h : Divides divisor st x) (hdigits : st.digits < limit)
    (hrest : st.remainder ≠ 0) (hk : st.blockSize = 0) : Gives (roundLast divisor st) x := by
  have hfull := full_of_blockSize hrest hk
  have hroom := h.room_le hfull
  have hm := h.lastDigit_adjacent
  unfold roundLast
  dsimp only
  generalize roundHalfEven (st.digits * divisor + st.remainder) divisor = m at hm ⊢
  have hleast : (st.digits : Int) ≤ m := by
    apply hm.below
    push_cast
    linarith [h.rest_nonneg]
  have hmost : m ≤ st.digits + 1 := by
    apply hm.above
    push_cast
    linarith [h.rest_lt_one]
  have hcast : (m.toNat : Int) = m := by omega
  rw [scale_eq hroom, if_neg (by omega)]
  split
  · next hfits =>
    refine ⟨_, rfl, ⟨hfits, Nat.sub_le _ _⟩, ?_⟩
    show Closest x (m.toNat : Int) (28 - st.room)
    rw [hcast]
    exact lastDigit_closest h hroom hfull hrest hm
  · next hlimit =>
    have hq : m.toNat = limit := by omega
    rw [hq]
    exact narrow_limit_gives h hroom hrest (by omega)

/-- A block of digits that brings the quotient to the limit leaves a place to take back. -/
theorem narrow_block_gives (h : Divides divisor st x) (hlimit : limit ≤ st.digits)
    (hmost : st.digits ≤ limit + tenPow 9) :
    Gives (narrow st.digits (st.remainder ≠ 0) st.scale) x := by
  have hroom : st.room < 28 := by
    by_contra hmany
    have hlt : st.digits * 1 < limit := h.digits_lt (j := 0) (by omega)
    omega
  have hvalue := h.value_at hroom.le
  have hreached : (limit : ℚ) ≤ st.digits := by exact_mod_cast hlimit
  have hnonneg := h.rest_nonneg
  rw [scale_eq hroom.le]
  refine narrow_gives (by omega) (by omega) hvalue (by linarith) hlimit hmost ?_ ?_
  · intro i hi
    have hless := h.rest_lt_one
    have hi : (10 * i : ℚ) < st.digits + 1 := by linarith
    have hi : 10 * i < st.digits + 1 := by exact_mod_cast hi
    omega
  · intro i hi
    by_cases hleft : st.remainder = 0
    · have hi : (st.digits : ℚ) ≤ 10 * i := by linarith
      have hi : (st.digits : Int) ≤ 10 * i := by exact_mod_cast hi
      simp only [hleft, ne_eq, not_true_eq_false, decide_false, Bool.toNat_false]
      omega
    · -- something is left over, so the next whole number is not below
      have hpos := h.rest_pos hleft
      have hi : (st.digits : ℚ) < 10 * i := by linarith
      have hi : (st.digits : Int) < 10 * i := by exact_mod_cast hi
      simp only [hleft, ne_eq, not_false_eq_true, decide_true, Bool.toNat_true]
      omega

/-! ### The whole division -/

theorem run_gives (h : Divides divisor st x) (hdigits : st.digits < limit) :
    Gives (run divisor st) x := by
  fun_induction run divisor st with
  | case1 st k hk hrest =>
    -- nothing is left over, so the digits are exact
    have hsize : st.blockSize = min 9 (st.room - 28) := if_pos hrest
    have hroom : st.room ≤ 28 := by omega
    have hvalue := h.value_at hroom
    rw [rest, hrest, Nat.cast_zero, zero_div, add_zero] at hvalue
    have hexact : ((st.digits : Int) : ℚ) = x * 10 ^ (28 - st.room) := by
      rw [hvalue, Int.cast_natCast]
    rw [scale_eq hroom]
    exact ⟨_, rfl, ⟨hdigits, Nat.sub_le _ _⟩, .of_eq hexact, Or.inr (Or.inl hexact)⟩
  | case2 st k hk hrest => exact roundLast_gives h hdigits hrest hk
  | case3 st k hk hbad =>
    -- the scale stays negative: the digits would be too many
    obtain ⟨hrest, hless, hscale⟩ := hbad
    unfold scale at hscale
    have hsize : k = widest st.digits (min 9 st.room) := blockSize_eq hrest
    have hlimit := limit_le_of_widest_lt (q := st.digits) (k := min 9 st.room) (by omega)
    have hlt := h.digits_lt (j := k + 1) (by omega)
    rw [← hsize] at hlimit
    omega
  | case4 st k hk hgo q hfull =>
    have hlt : q < limit := h.block_lt hk
    omega
  | case5 st k hk hgo q r next hfits hfull =>
    have hq : q < limit := h.block_lt hk
    have hadded : r / divisor ≤ tenPow 9 :=
      Nat.div_le_of_le_mul
        (Nat.mul_le_mul (Nat.le_of_lt h.remainder) (tenPow_le_tenPow st.blockSize_le))
    have hdigits : next.digits = q + r / divisor := rfl
    exact narrow_block_gives (h.brought st.blockSize_le_room) hfull (by omega)
  | case6 st k hk hgo q r next hfits hfull ih =>
    exact ih (h.brought st.blockSize_le_room) (by omega)

/-- The whole quotient at the difference of the scales, with what it leaves over. -/
theorem start_divides {a b : Nat} (ha : a ≤ 28) (hdivisor : 0 < divisor)
    (hx : (n / 10 ^ a : ℚ) / (divisor / 10 ^ b) = x) (hrange : x ≤ limit - 1) :
    Divides divisor (start n divisor (a - b)) x where
  remainder := Nat.mod_lt _ hdivisor
  value := by
    have hroom : (start n divisor (a - b)).room = 28 - a + b := by
      show (28 - ((a : Int) - b)).toNat = 28 - a + b
      omega
    have hsplit : (10 : ℚ) ^ 28 = 10 ^ (28 - a) * 10 ^ a := by
      rw [← pow_add, Nat.sub_add_cancel ha]
    have hpos : (0 : ℚ) < divisor := by exact_mod_cast hdivisor
    have hwhole : (↑(n / divisor) + ↑(n % divisor) / divisor : ℚ) = n / divisor := by
      have hdiv : (divisor : ℚ) * ↑(n / divisor) + ↑(n % divisor) = n := by
        exact_mod_cast Nat.div_add_mod n divisor
      rw [eq_div_iff hpos.ne', add_mul, div_mul_cancel₀ _ hpos.ne', mul_comm, hdiv]
    show x * 10 ^ 28 = (↑(n / divisor) + ↑(n % divisor) / divisor : ℚ) * 10 ^ _
    rw [hwhole, hroom, ← hx, hsplit, pow_add]
    field_simp
  range := hrange

/-! ### Zeros at the end -/

/-- The value of a result. -/
def value (y : Result) : ℚ := y.1 / 10 ^ y.2

theorem dropBlock_inBudget (h : InBudget y) : InBudget (dropBlock n y) := by
  obtain ⟨hmantissa, hscale⟩ := h
  unfold dropBlock
  split
  · exact ⟨Nat.lt_of_le_of_lt (Nat.div_le_self _ _) hmantissa,
      Nat.le_trans (Nat.sub_le _ _) hscale⟩
  · exact ⟨hmantissa, hscale⟩

theorem dropBlock_value (n : Nat) (y : Result) : value (dropBlock n y) = value y := by
  unfold dropBlock
  split
  · next hzeros =>
    obtain ⟨hplaces, hdivides⟩ := hzeros
    have hsplit : (10 : ℚ) ^ y.2 = 10 ^ (y.2 - n) * 10 ^ n := by
      rw [← pow_add, Nat.sub_add_cancel hplaces]
    have hmantissa : (y.1 : ℚ) = ↑(y.1 / tenPow n) * 10 ^ n := by
      rw [← cast_tenPow]
      exact_mod_cast (Nat.div_mul_cancel (Nat.dvd_of_mod_eq_zero hdivides)).symm
    show (↑(y.1 / tenPow n) : ℚ) / 10 ^ (y.2 - n) = y.1 / 10 ^ y.2
    rw [hmantissa, hsplit, mul_div_mul_right _ _ (by positivity)]
  · rfl

/-- What every single block keeps is kept. -/
theorem trim_keeps {P : Result → Prop} (hdrop : ∀ n z, P z → P (dropBlock n z)) (h : P y) :
    P (trim y) := by
  have height : ∀ z, P z → P (dropEight z) := by
    intro z hz
    unfold dropEight
    split
    · exact hdrop _ _ hz
    · exact hz
  unfold trim
  refine hdrop _ _ (hdrop _ _ (hdrop _ _ ?_))
  exact height _ (height _ (height _ h))

theorem trim_inBudget (h : InBudget y) : InBudget (trim y) :=
  trim_keeps (fun _ _ => dropBlock_inBudget) h

theorem trim_value (y : Result) : value (trim y) = value y :=
  trim_keeps (P := fun z => value z = value y) (fun n z hz => (dropBlock_value n z).trans hz) rfl

end LongDivision

open LongDivision

variable {a b d : Decimal}

theorem toRat_abs (d : Decimal) : d.abs.toRat = d.mantissa.natAbs / 10 ^ d.scale := by
  rw [toRat, abs, Int.cast_natCast]

theorem abs_of_nonneg (h : 0 ≤ d.toRat) : d.abs = d := by
  have habs : (d.mantissa.natAbs : Int) = d.mantissa :=
    Int.natAbs_of_nonneg (mantissa_nonneg h)
  unfold abs
  congr 1

/-- The quotient is the rounded quotient of the sizes, with the sign that belongs to it. -/
theorem exists_div? (ha : ¬a.IsZero) (hb : ¬b.IsZero)
    (hrange : a.abs.toRat / b.abs.toRat ≤ limit - 1) :
    ∃ y z, a.div? b = of? (a.mantissa.sign * b.mantissa.sign * y.1) y.2 ∧ InBudget y ∧
      value y = value z ∧ InBudget z ∧ Closest (a.abs.toRat / b.abs.toRat) z.1 z.2 := by
  have hdivisor : 0 < b.mantissa.natAbs := Int.natAbs_pos.mpr hb
  have hdivides : Divides b.mantissa.natAbs
      (start a.mantissa.natAbs b.mantissa.natAbs (a.scale - b.scale))
      (a.abs.toRat / b.abs.toRat) :=
    start_divides a.scale_le hdivisor (by rw [toRat_abs, toRat_abs]) hrange
  have hdigits : a.mantissa.natAbs / b.mantissa.natAbs < limit :=
    Nat.lt_of_le_of_lt (Nat.div_le_self _ _) a.mantissa_lt
  obtain ⟨z, hrun, hz, hclosest⟩ := run_gives hdivides hdigits
  unfold div?
  rw [if_neg hb, if_neg ha]
  dsimp only
  rw [hrun, Option.bind_some]
  split
  · exact ⟨z, z, rfl, hz, rfl, hz, hclosest⟩
  · exact ⟨trim z, z, rfl, trim_inBudget hz, trim_value z, hz, hclosest⟩

theorem of?_of_inBudget {y : Result} (h : InBudget y) (sign : Int) (hsign : sign.natAbs = 1) :
    ∃ d, of? (sign * y.1) y.2 = some d ∧ d.mantissa = sign * y.1 ∧ d.scale = y.2 := by
  have hfits : (sign * y.1).natAbs < limit ∧ y.2 ≤ 28 := by
    rw [Int.natAbs_mul, hsign, Int.natAbs_natCast, Nat.one_mul]
    exact h
  exact ⟨_, dif_pos hfits, rfl, rfl⟩

/-- A quotient of a decimal that is not negative by a positive one is rounded once. -/
theorem div?_rounded (ha : 0 ≤ a.toRat) (hb : 0 < b.toRat) :
    Rounded (a.div? b) (a.toRat / b.toRat) := by
  have hbz : ¬b.IsZero := fun hzero => hb.ne' (isZero_iff_toRat.mp hzero)
  by_cases haz : a.IsZero
  · have hzero : a.div? b = some zero := by
      unfold div?
      rw [if_neg hbz, if_pos haz]
    rw [hzero, isZero_iff_toRat.mp haz, zero_div]
    exact .of_eq toRat_zero
  · intro e he
    have hrange : a.abs.toRat / b.abs.toRat ≤ limit - 1 := by
      rw [abs_of_nonneg ha, abs_of_nonneg hb.le]
      exact he.trans e.toRat_le
    obtain ⟨y, z, hdiv, hy, hyz, hz, hclosest⟩ := exists_div? haz hbz hrange
    rw [abs_of_nonneg ha, abs_of_nonneg hb.le] at hclosest
    have hsign : a.mantissa.sign * b.mantissa.sign = 1 := by
      have ha : 0 < a.mantissa := lt_of_le_of_ne (mantissa_nonneg ha) (Ne.symm haz)
      have hb : 0 < b.mantissa := lt_of_le_of_ne (mantissa_nonneg hb.le) (Ne.symm hbz)
      rw [Int.sign_eq_one_of_pos ha, Int.sign_eq_one_of_pos hb, Int.one_mul]
    rw [hsign] at hdiv
    obtain ⟨d, hd, hmantissa, hscale⟩ := of?_of_inBudget hy 1 rfl
    obtain ⟨f, -, hmantissa', hscale'⟩ := of?_of_inBudget hz 1 rfl
    rw [Int.one_mul] at hmantissa hmantissa'
    have hvalue : d.toRat = f.toRat := by
      rw [toRat, toRat, hmantissa, hscale, hmantissa', hscale', Int.cast_natCast, Int.cast_natCast]
      exact hyz
    rw [← hmantissa', ← hscale'] at hclosest
    exact ⟨d, hdiv.trans hd, hclosest.faithful.congr hvalue⟩

/-- A decimal can be divided by every whole number but zero. -/
theorem div?_isSome (a : Decimal) {b : Decimal} (hb : ¬b.IsZero) (hwhole : b.scale = 0) :
    (a.div? b).isSome := by
  by_cases ha : a.IsZero
  · unfold div?
    rw [if_neg hb, if_pos ha]
    rfl
  · have hone : 1 ≤ b.abs.toRat := by
      rw [toRat_abs, hwhole, pow_zero, div_one]
      exact_mod_cast Int.natAbs_pos.mpr hb
    have hnonneg : 0 ≤ a.abs.toRat := by
      rw [toRat_abs]
      positivity
    have hrange : a.abs.toRat / b.abs.toRat ≤ limit - 1 :=
      (div_le_self hnonneg hone).trans a.abs.toRat_le
    obtain ⟨y, z, hdiv, hy, -, -, -⟩ := exists_div? ha hb hrange
    have hsign : (a.mantissa.sign * b.mantissa.sign).natAbs = 1 := by
      rw [← Int.sign_mul, Int.natAbs_sign_of_ne_zero (Int.mul_ne_zero ha hb)]
    obtain ⟨d, hd, -, -⟩ := of?_of_inBudget hy _ hsign
    rw [hdiv, hd]
    rfl

end MarketDepth.Decimal
