/-
MarketDepth/Proofs/Simulation/Walk.lean

Orders that are filled exactly.

The walk over the levels computes with decimals and stops early.  It takes just the
shares that it is to take as long as what is still wanted is not rounded
(`Walk.run_takes`), and it gets to the end with the exact proceeds if these are not
rounded either (`Walk.exists_run`).  For both it is enough that the amounts and the
prices have few enough places and digits.

Main result: `Simulation.filled_of_exact`.
-/
import MarketDepth.Proofs.Decimal.Faithful
import MarketDepth.Proofs.Simulation.Shares
import MarketDepth.Simulation

namespace MarketDepth.Simulation

open Decimal (OnGrid limit)

variable {l : Level} {levels rest : List Level} {amount : Decimal} {s t : Nat}

/-! ### One level -/

namespace Walk

variable {w w' w₁ : Walk}

theorem take_eq_ok_iff : w.take l = .ok w' ↔
    ∃ proceeds remaining,
      w.collect? (min w.remaining l.amount) l.price = some proceeds ∧
      w.remaining.sub? (min w.remaining l.amount) = some remaining ∧
      w' = {
        remaining, proceeds
        best := w.best.or (some l.price)
        worst := some l.price
        exhausted := w.exhausted + if min w.remaining l.amount ≈ l.amount then 1 else 0 } := by
  unfold take Decimal.sub
  dsimp only
  cases w.collect? (min w.remaining l.amount) l.price with
  | none => simp
  | some proceeds =>
    cases w.remaining.sub? (min w.remaining l.amount) with
    | none => simp
    | some remaining => simp [eq_comm]

/-- What is still wanted has few enough places and digits for nothing to be rounded. -/
structure Exact (s : Nat) (w : Walk) : Prop where
  places : s ≤ 28
  grid : OnGrid s w.remaining.toRat
  nonneg : 0 ≤ w.remaining.toRat
  fits : w.remaining.toRat * 10 ^ s < limit

/-- The walk from one state to the other takes what the order is to take. -/
structure Takes (w : Walk) (levels : List Level) (w' : Walk) : Prop where
  remaining : w'.remaining.toRat = max 0 (w.remaining.toRat - volume levels)
  best : w'.best = w.best.or (if w.remaining.IsZero then none else levels.head?.map (·.price))
  worst : w'.worst =
    ((touched (shares w.remaining.toRat levels)).getLast?.map (·.level.price)).or w.worst
  exhausted : w'.exhausted = w.exhausted + usedUp (shares w.remaining.toRat levels)

/-- Part of what is wanted can be taken off without rounding. -/
theorem Exact.sub? (h : w.Exact s) (ha : 0 < l.amount.toRat) (hgrid : OnGrid s l.amount.toRat) :
    ∃ d, w.remaining.sub? (min w.remaining l.amount) = some d ∧
      d.toRat = max 0 (w.remaining.toRat - l.amount.toRat) := by
  have hmin := Decimal.toRat_min w.remaining l.amount
  have hle : (min w.remaining l.amount).toRat ≤ w.remaining.toRat := by
    rw [hmin]
    exact min_le_left _ _
  have hnonneg : 0 ≤ (min w.remaining l.amount).toRat := by
    rw [hmin]
    exact le_min h.nonneg ha.le
  have hleft : OnGrid s (w.remaining.toRat - (min w.remaining l.amount).toRat) := by
    rw [hmin]
    exact h.grid.sub (h.grid.min hgrid)
  obtain ⟨e, he⟩ := hleft.exists_decimal h.places (by linarith)
    (Decimal.fits_of_le (by linarith) h.fits)
  obtain ⟨d, hd, hvalue⟩ := (Decimal.sub?_rounded hle).eq he
  refine ⟨d, hd, ?_⟩
  rw [hvalue, hmin]
  rcases le_total w.remaining.toRat l.amount.toRat with hends | hon
  · rw [min_eq_left hends, max_eq_left (by linarith), sub_self]
  · rw [min_eq_right hon, max_eq_right (by linarith)]

/-- What is left over is no harder to compute with. -/
theorem Exact.left (h : w.Exact s) (hgrid : OnGrid s l.amount.toRat) (ha : 0 < l.amount.toRat)
    (hw' : w'.remaining.toRat = max 0 (w.remaining.toRat - l.amount.toRat)) : w'.Exact s := by
  refine ⟨h.places, ?_, ?_, ?_⟩
  · rw [hw']
    rcases max_choice 0 (w.remaining.toRat - l.amount.toRat) with hmax | hmax
    · rw [hmax]
      exact .zero
    · rw [hmax]
      exact h.grid.sub hgrid
  · rw [hw']
    exact le_max_left _ _
  · rw [hw']
    exact Decimal.fits_of_le (max_le h.nonneg (by linarith)) h.fits

/-- An order that wants nothing takes nothing. -/
theorem takes_of_isZero (hpos : ∀ l ∈ levels, l.Positive) (h : w.remaining.IsZero) :
    Takes w levels w := by
  have hzero := Decimal.isZero_iff_toRat.mp h
  have htaken : ∀ x ∈ shares w.remaining.toRat levels, x.taken = 0 :=
    fun x hx => taken_of_nonpos hpos hzero.le hx
  have htouched : touched (shares w.remaining.toRat levels) = [] := by
    refine List.filter_eq_nil_iff.mpr ?_
    intro x hx
    rw [htaken x hx]
    decide
  have husedUp : usedUp (shares w.remaining.toRat levels) = 0 := by
    refine List.countP_eq_zero.mpr ?_
    intro x hx
    rw [htaken x hx, decide_eq_true_eq]
    exact (hpos _ (mem_of_mem_shares hx)).amount_pos.ne
  refine ⟨?_, ?_, ?_, ?_⟩
  · have := volume_nonneg hpos
    rw [hzero, max_eq_left (by linarith)]
  · rw [if_pos h, Option.or_none]
  · rw [htouched]
    rfl
  · rw [husedUp, Nat.add_zero]

theorem Exact.take_remaining (h : w.Exact s) (hl : l.Positive) (hgrid : OnGrid s l.amount.toRat)
    (htake : w.take l = .ok w₁) :
    w₁.remaining.toRat = max 0 (w.remaining.toRat - l.amount.toRat) := by
  obtain ⟨proceeds, remaining, -, hsub, rfl⟩ := take_eq_ok_iff.mp htake
  obtain ⟨d, hd, hleft⟩ := h.sub? hl.amount_pos hgrid
  obtain rfl := Option.some.inj (hsub.symm.trans hd)
  exact hleft

/-- A level is taken from, and then the levels behind it. -/
theorem Takes.cons (hpos : ∀ l ∈ rest, l.Positive) (hl : l.Positive) (hwant : ¬w.remaining.IsZero)
    (hnonneg : 0 ≤ w.remaining.toRat) (htake : w.take l = .ok w₁)
    (hleft : w₁.remaining.toRat = max 0 (w.remaining.toRat - l.amount.toRat))
    (h : Takes w₁ rest w') : Takes w (l :: rest) w' := by
  have ha := hl.amount_pos
  have hwanted : 0 < w.remaining.toRat :=
    lt_of_le_of_ne hnonneg fun heq => hwant (Decimal.isZero_iff_toRat.mpr heq.symm)
  have hshare := shares_cons (l := l) hpos hnonneg
  rw [← hleft] at hshare
  obtain ⟨proceeds, remaining, -, -, htook⟩ := take_eq_ok_iff.mp htake
  refine ⟨?_, ?_, ?_, ?_⟩
  · have hvolume := volume_nonneg hpos
    rw [h.remaining, hleft, volume_cons]
    rcases le_total w.remaining.toRat l.amount.toRat with hends | hon
    · have hnone : max 0 (w.remaining.toRat - l.amount.toRat) = 0 := max_eq_left (by linarith)
      rw [hnone, max_eq_left (by linarith), max_eq_left (by linarith)]
    · have hsome : max 0 (w.remaining.toRat - l.amount.toRat) =
          w.remaining.toRat - l.amount.toRat := max_eq_right (by linarith)
      rw [hsome, sub_sub]
  · rw [h.best, htook, if_neg hwant]
    cases w.best <;> rfl
  · have htouched : touched (shares w.remaining.toRat (l :: rest)) =
        ⟨l, min l.amount.toRat w.remaining.toRat⟩ :: touched (shares w₁.remaining.toRat rest) := by
      rw [hshare]
      exact touched_cons (lt_min ha hwanted)
    rw [h.worst, htouched, List.getLast?_cons]
    cases (touched (shares w₁.remaining.toRat rest)).getLast? with
    | none => rw [htook]; rfl
    | some x => rfl
  · have hfull : min w.remaining l.amount ≈ l.amount ↔
        min l.amount.toRat w.remaining.toRat = l.amount.toRat := by
      rw [Decimal.equiv_iff_toRat, Decimal.toRat_min, min_comm]
    have hcount : w₁.exhausted =
        w.exhausted + if min w.remaining l.amount ≈ l.amount then 1 else 0 := by
      rw [htook]
    rw [h.exhausted, hcount, hshare]
    simp only [usedUp, List.countP_cons, decide_eq_true_eq, hfull]
    omega

/-! ### The walk -/

/-- While nothing is rounded, a walk takes what the order is to take. -/
theorem run_takes (hpos : ∀ l ∈ levels, l.Positive) (hgrid : ∀ l ∈ levels, OnGrid s l.amount.toRat)
    (hw : w.Exact s) (h : w.run levels = .ok w') : Takes w levels w' := by
  induction levels generalizing w with
  | nil =>
    obtain rfl := Except.ok.inj h
    refine ⟨?_, ?_, rfl, rfl⟩
    · show _ = max 0 (w.remaining.toRat - 0)
      rw [sub_zero, max_eq_right hw.nonneg]
    · rw [List.head?_nil, Option.map_none, ite_self, Option.or_none]
  | cons l rest ih =>
    obtain ⟨hl, hrest⟩ := List.forall_mem_cons.mp hpos
    obtain ⟨hlGrid, hrestGrid⟩ := List.forall_mem_cons.mp hgrid
    unfold run at h
    split at h
    · next hzero =>
      obtain rfl := Except.ok.inj h
      exact takes_of_isZero hpos hzero
    · next hwant =>
      cases htake : w.take l with
      | error e =>
        rw [htake] at h
        cases h
      | ok w₁ =>
        rw [htake] at h
        have hleft := hw.take_remaining hl hlGrid htake
        have hexact := hw.left hlGrid hl.amount_pos hleft
        exact .cons hrest hl hwant hw.nonneg htake hleft (ih hrest hrestGrid hexact h)

/-- What is paid for part of a level is summed without rounding if the sum fits. -/
theorem exists_collect? (hs : s + t ≤ 28) {fill price : Decimal} (hfill : OnGrid s fill.toRat)
    (hprice : OnGrid t price.toRat) (hfill_nonneg : 0 ≤ fill.toRat)
    (hprice_nonneg : 0 ≤ price.toRat) (hplaces : OnGrid (s + t) w.proceeds.toRat)
    (hnonneg : 0 ≤ w.proceeds.toRat)
    (hfits : (w.proceeds.toRat + fill.toRat * price.toRat) * 10 ^ (s + t) < limit) :
    ∃ d, w.collect? fill price = some d ∧
      d.toRat = w.proceeds.toRat + fill.toRat * price.toRat := by
  have hproduct : 0 ≤ fill.toRat * price.toRat := mul_nonneg hfill_nonneg hprice_nonneg
  obtain ⟨e, he⟩ := (hfill.mul hprice).exists_decimal hs hproduct
    (Decimal.fits_of_le (by linarith) hfits)
  obtain ⟨cost, hcost, hvalue⟩ := (Decimal.mul?_rounded hfill_nonneg hprice_nonneg).eq he
  obtain ⟨f, hf⟩ := (hplaces.add (hfill.mul hprice)).exists_decimal hs (by linarith) hfits
  have hsum : 0 ≤ w.proceeds.toRat + cost.toRat := by linarith
  obtain ⟨d, hd, hdvalue⟩ := (Decimal.add?_rounded hsum).eq (e := f) (by rw [hf, hvalue])
  refine ⟨d, ?_, by rw [hdvalue, hvalue]⟩
  rw [collect?, hcost, Option.bind_some, hd]

/-- One level is taken from without rounding if the proceeds fit. -/
theorem exists_take (hs : s + t ≤ 28) (hl : l.Positive) (hgrid : OnGrid s l.amount.toRat)
    (hprice : OnGrid t l.price.toRat) (hw : w.Exact s) (hplaces : OnGrid (s + t) w.proceeds.toRat)
    (hnonneg : 0 ≤ w.proceeds.toRat)
    (hfits : (w.proceeds.toRat + min l.amount.toRat w.remaining.toRat * l.price.toRat) *
      10 ^ (s + t) < limit) :
    ∃ w₁, w.take l = .ok w₁ ∧ OnGrid (s + t) w₁.proceeds.toRat ∧
      w₁.proceeds.toRat =
        w.proceeds.toRat + min l.amount.toRat w.remaining.toRat * l.price.toRat := by
  have hfill : (min w.remaining l.amount).toRat = min l.amount.toRat w.remaining.toRat := by
    rw [Decimal.toRat_min, min_comm]
  have hfillGrid : OnGrid s (min w.remaining l.amount).toRat := by
    rw [hfill]
    exact hgrid.min hw.grid
  have hfillNonneg : 0 ≤ (min w.remaining l.amount).toRat := by
    rw [hfill]
    exact le_min hl.amount_pos.le hw.nonneg
  rw [← hfill] at hfits ⊢
  obtain ⟨remaining, hsub, -⟩ := hw.sub? hl.amount_pos hgrid
  obtain ⟨proceeds, hcollect, hsum⟩ :=
    exists_collect? hs hfillGrid hprice hfillNonneg hl.price_pos.le hplaces hnonneg hfits
  refine ⟨_, take_eq_ok_iff.mpr ⟨proceeds, remaining, hcollect, hsub, rfl⟩, ?_, hsum⟩
  rw [hsum]
  exact hplaces.add (hfillGrid.mul hprice)

/-- The walk gets to the end, with the exact proceeds, if these fit as well. -/
theorem exists_run (hs : s + t ≤ 28) (hpos : ∀ l ∈ levels, l.Positive)
    (hgrid : ∀ l ∈ levels, OnGrid s l.amount.toRat) (hprice : ∀ l ∈ levels, OnGrid t l.price.toRat)
    (hw : w.Exact s) (hplaces : OnGrid (s + t) w.proceeds.toRat) (hnonneg : 0 ≤ w.proceeds.toRat)
    (hfits : (w.proceeds.toRat + paid (shares w.remaining.toRat levels)) * 10 ^ (s + t) < limit) :
    ∃ w', w.run levels = .ok w' ∧
      w'.proceeds.toRat = w.proceeds.toRat + paid (shares w.remaining.toRat levels) := by
  induction levels generalizing w with
  | nil => exact ⟨w, rfl, (add_zero _).symm⟩
  | cons l rest ih =>
    obtain ⟨hl, hrest⟩ := List.forall_mem_cons.mp hpos
    obtain ⟨hlGrid, hrestGrid⟩ := List.forall_mem_cons.mp hgrid
    obtain ⟨hlPrice, hrestPrice⟩ := List.forall_mem_cons.mp hprice
    unfold run
    split
    · next hzero =>
      have hnone : paid (shares w.remaining.toRat (l :: rest)) = 0 := by
        refine List.sum_eq_zero ?_
        intro v hv
        obtain ⟨x, hx, rfl⟩ := List.mem_map.mp hv
        rw [Share.paid, taken_of_nonpos hpos (Decimal.isZero_iff_toRat.mp hzero).le hx, zero_mul]
      exact ⟨w, rfl, by rw [hnone, add_zero]⟩
    · next hwant =>
      have hpaid : paid (shares w.remaining.toRat (l :: rest)) =
          min l.amount.toRat w.remaining.toRat * l.price.toRat +
            paid (shares (max 0 (w.remaining.toRat - l.amount.toRat)) rest) := by
        rw [shares_cons hrest hw.nonneg]
        rfl
      have hlater : 0 ≤ paid (shares (max 0 (w.remaining.toRat - l.amount.toRat)) rest) :=
        paid_nonneg hrest
      have hnow : 0 ≤ min l.amount.toRat w.remaining.toRat * l.price.toRat :=
        mul_nonneg (le_min hl.amount_pos.le hw.nonneg) hl.price_pos.le
      rw [hpaid, ← add_assoc] at hfits
      have hfitsNow : (w.proceeds.toRat + min l.amount.toRat w.remaining.toRat * l.price.toRat) *
          10 ^ (s + t) < limit := Decimal.fits_of_le (by linarith) hfits
      obtain ⟨w₁, htake, hplaces₁, hsum⟩ :=
        exists_take hs hl hlGrid hlPrice hw hplaces hnonneg hfitsNow
      have hleft := hw.take_remaining hl hlGrid htake
      have hw₁ := hw.left hlGrid hl.amount_pos hleft
      rw [← hsum, ← hleft] at hfits
      obtain ⟨w', hrun, hproceeds⟩ :=
        ih hrest hrestGrid hrestPrice hw₁ hplaces₁ (by linarith) hfits
      rw [htake]
      refine ⟨w', hrun, ?_⟩
      rw [hproceeds, hpaid, ← add_assoc, ← hsum, ← hleft]

end Walk

/-! ### The outcome -/

variable {r : Simulation} {w : Walk}

/-- The amounts have few enough places, and the amount wanted few enough digits at these,
for what is still wanted never to be rounded. -/
structure AmountsFit (s : Nat) (levels : List Level) (amount : Decimal) : Prop where
  places : s ≤ 28
  amount_grid : OnGrid s amount.toRat
  amounts_grid : ∀ l ∈ levels, OnGrid s l.amount.toRat
  amount_fits : amount.toRat * 10 ^ s < limit

theorem AmountsFit.exact_start (h : AmountsFit s levels amount) (hamount : .zero < amount) :
    (Walk.start amount).Exact s := by
  have hnonneg : 0 ≤ amount.toRat := (Decimal.pos_iff_toRat.mp hamount).le
  exact ⟨h.places, h.amount_grid, hnonneg, h.amount_fits⟩

/-- The outcome is what the shares of the levels come to, but for the proceeds. -/
structure Filled (levels : List Level) (amount : Decimal) (r : Simulation) : Prop where
  taken : r.filled.toRat = taken (shares amount.toRat levels)
  least : r.filled.toRat = min amount.toRat (volume levels)
  best : r.bestPrice = levels.head?.map (·.price)
  worst : r.worstPrice = (touched (shares amount.toRat levels)).getLast?.map (·.level.price)
  remaining : r.remainingLevels =
    (shares amount.toRat levels).countP fun x => x.taken < x.level.amount.toRat
  status : r.status =
    if levels = [] then .insufficientLiquidity
    else if amount.toRat ≤ volume levels then .fullyFilled
    else .partiallyFilled

/-- A difference of prices, and with it the impact, is always in range. -/
theorem exists_impact {best worst : Option Decimal} (hbest : ∀ d ∈ best, .zero ≤ d)
    (hworst : ∀ d ∈ worst, .zero ≤ d) : ∃ d, impact best worst = .ok d := by
  unfold impact
  split
  · next b w =>
    obtain ⟨way, hway⟩ := Option.isSome_iff_exists.mp
      (Decimal.sub?_isSome (hworst w rfl) (hbest b rfl))
    have hsub : w.sub b = .ok way := by
      rw [Decimal.sub, hway]
    rw [hsub]
    exact ⟨_, rfl⟩
  · exact ⟨_, rfl⟩

/-- What is filled is computed from what is still wanted, and without rounding. -/
theorem exists_filled (hpos : ∀ l ∈ levels, l.Positive) (hamount : .zero < amount)
    (hfit : AmountsFit s levels amount)
    (hremaining : w.remaining.toRat = max 0 (amount.toRat - volume levels)) :
    ∃ filled, amount.sub w.remaining = .ok filled ∧
      filled.toRat = min amount.toRat (volume levels) := by
  have hvolume := volume_nonneg hpos
  have hpositive : 0 < amount.toRat := Decimal.pos_iff_toRat.mp hamount
  have hleft : amount.toRat - w.remaining.toRat = min amount.toRat (volume levels) := by
    rw [hremaining]
    rcases le_total amount.toRat (volume levels) with hle | hle
    · rw [max_eq_left (by linarith), min_eq_left hle, sub_zero]
    · rw [max_eq_right (by linarith), min_eq_right hle, sub_sub_cancel]
  obtain ⟨e, he⟩ := (hfit.amount_grid.min (volume_onGrid hfit.amounts_grid)).exists_decimal
    hfit.places (le_min hpositive.le hvolume)
    (Decimal.fits_of_le (min_le_left _ _) hfit.amount_fits)
  have hle : w.remaining.toRat ≤ amount.toRat := by
    rw [hremaining]
    exact max_le hpositive.le (by linarith)
  obtain ⟨filled, hsub, hfilled⟩ := (Decimal.sub?_rounded hle).eq (he.trans hleft.symm)
  refine ⟨filled, ?_, hfilled.trans hleft⟩
  rw [Decimal.sub, hsub]

/-- A walk that took what the order is to take has an outcome, and it is the right one. -/
theorem exists_ofWalk (hpos : ∀ l ∈ levels, l.Positive) (hamount : .zero < amount)
    (hfit : AmountsFit s levels amount) (h : (Walk.start amount).Takes levels w) :
    ∃ r, ofWalk amount levels.length w = .ok r ∧ Filled levels amount r ∧
      r.proceeds = w.proceeds ∧ r.averagePrice = w.proceeds.div? r.filled := by
  have hpositive : 0 < amount.toRat := Decimal.pos_iff_toRat.mp hamount
  have hremaining : w.remaining.toRat = max 0 (amount.toRat - volume levels) := h.remaining
  have hbest : w.best = levels.head?.map (·.price) := by
    have hzero : ¬amount.IsZero := fun hzero => hpositive.ne' (Decimal.isZero_iff_toRat.mp hzero)
    rw [h.best]
    show none.or (if amount.IsZero then none else _) = _
    rw [if_neg hzero, Option.none_or]
  have hworst : w.worst = (touched (shares amount.toRat levels)).getLast?.map (·.level.price) := by
    rw [h.worst]
    exact Option.or_none
  obtain ⟨filled, hsub, hfilled⟩ := exists_filled hpos hamount hfit hremaining
  obtain ⟨percent, hpercent⟩ : ∃ d, impact w.best w.worst = .ok d := by
    refine exists_impact ?_ ?_
    · intro d hd
      rw [hbest] at hd
      obtain ⟨l, hl, rfl⟩ := Option.map_eq_some_iff.mp hd
      exact Int.le_of_lt (hpos l (List.mem_of_head? hl)).1
    · intro d hd
      rw [hworst] at hd
      obtain ⟨x, hx, rfl⟩ := Option.map_eq_some_iff.mp hd
      have hmem := List.mem_of_mem_filter (List.mem_of_getLast? hx)
      exact Int.le_of_lt (hpos _ (mem_of_mem_shares hmem)).1
  unfold ofWalk
  rw [hsub, hpercent]
  refine ⟨_, rfl, ⟨?_, hfilled, hbest, hworst, ?_, ?_⟩, rfl, rfl⟩
  · rw [taken_shares hpos hpositive.le]
    exact hfilled
  · show levels.length - w.exhausted = _
    have hexhausted : w.exhausted = 0 + usedUp (shares amount.toRat levels) := h.exhausted
    rw [hexhausted, Nat.zero_add, length_sub_usedUp]
  · have hdone : w.remaining.IsZero ↔ amount.toRat ≤ volume levels := by
      rw [Decimal.isZero_iff_toRat, hremaining, max_eq_left_iff, sub_nonpos]
    show (if levels.length = 0 then _ else if w.remaining.IsZero then _ else _) = _
    simp only [List.length_eq_zero_iff, hdone]

/-- An outcome is that of a walk which got to the end. -/
theorem ofLevels_eq_ok_iff (hamount : .zero < amount) :
    ofLevels levels amount = .ok r ↔
      ∃ w, (Walk.start amount).run levels = .ok w ∧ ofWalk amount levels.length w = .ok r := by
  have hpositive : ¬amount ≤ .zero := Int.not_le.mpr hamount
  rw [ofLevels, if_neg hpositive]
  cases (Walk.start amount).run levels with
  | error e => simp [Except.bind]
  | ok w => cases hw : ofWalk amount levels.length w <;> simp [Except.bind, Except.mapError, hw]

/-- Every outcome is right as long as what is still wanted is not rounded. -/
theorem filled_of_ok (hpos : ∀ l ∈ levels, l.Positive) (hamount : .zero < amount)
    (hfit : AmountsFit s levels amount) (h : ofLevels levels amount = .ok r) :
    Filled levels amount r ∧ r.averagePrice = r.proceeds.div? r.filled := by
  obtain ⟨w, hrun, hw⟩ := (ofLevels_eq_ok_iff hamount).mp h
  have htakes := Walk.run_takes hpos hfit.amounts_grid (hfit.exact_start hamount) hrun
  obtain ⟨r', hr', hfilled, hproceeds, haverage⟩ := exists_ofWalk hpos hamount hfit htakes
  obtain rfl := Except.ok.inj (hw.symm.trans hr')
  exact ⟨hfilled, by rw [haverage, hproceeds]⟩

/-- Besides, the prices have few enough places, and what is paid few enough digits, for the
proceeds not to be rounded. -/
structure ProceedsFit (s t : Nat) (levels : List Level) (amount : Decimal) : Prop
    extends AmountsFit s levels amount where
  scales : s + t ≤ 28
  prices_grid : ∀ l ∈ levels, OnGrid t l.price.toRat
  paid_fits : paid (shares amount.toRat levels) * 10 ^ (s + t) < limit

theorem exists_ofLevels (hpos : ∀ l ∈ levels, l.Positive) (hamount : .zero < amount)
    (hfit : ProceedsFit s t levels amount) :
    ∃ r, ofLevels levels amount = .ok r ∧ Filled levels amount r ∧
      r.proceeds.toRat = paid (shares amount.toRat levels) := by
  have hw := hfit.exact_start hamount
  have hzero : (Walk.start amount).proceeds.toRat = 0 := Decimal.toRat_zero
  have hplaces : OnGrid (s + t) (Walk.start amount).proceeds.toRat := by
    rw [hzero]
    exact .zero
  have hfits : ((Walk.start amount).proceeds.toRat + paid (shares amount.toRat levels)) *
      10 ^ (s + t) < limit := by
    rw [hzero, zero_add]
    exact hfit.paid_fits
  obtain ⟨w, hrun, hproceeds⟩ :=
    Walk.exists_run hfit.scales hpos hfit.amounts_grid hfit.prices_grid hw hplaces hzero.ge hfits
  have htakes := Walk.run_takes hpos hfit.amounts_grid hw hrun
  obtain ⟨r, hr, hfilled, hpaid, -⟩ := exists_ofWalk hpos hamount hfit.toAmountsFit htakes
  refine ⟨r, (ofLevels_eq_ok_iff hamount).mpr ⟨w, hrun, hr⟩, hfilled, ?_⟩
  rw [hpaid, hproceeds, hzero, zero_add]
  rfl

/-- All amounts are multiples of `10 ^ -s` and all prices of `10 ^ -t`, and at these scales
the amount, all amounts together and their prices together are below the limit. -/
structure RoundsNothing (s t : Nat) (levels : List Level) (amount : Decimal) : Prop where
  scales : s + t ≤ 28
  amount_grid : OnGrid s amount.toRat
  amounts_grid : ∀ l ∈ levels, OnGrid s l.amount.toRat
  prices_grid : ∀ l ∈ levels, OnGrid t l.price.toRat
  amount_fits : amount.toRat * 10 ^ s < limit
  volume_fits : volume levels * 10 ^ s < limit
  worth_fits : worth levels * 10 ^ (s + t) < limit

theorem RoundsNothing.proceedsFit (hpos : ∀ l ∈ levels, l.Positive)
    (h : RoundsNothing s t levels amount) : ProceedsFit s t levels amount where
  places := by
    have := h.scales
    omega
  amount_grid := h.amount_grid
  amounts_grid := h.amounts_grid
  amount_fits := h.amount_fits
  scales := h.scales
  prices_grid := h.prices_grid
  paid_fits := Decimal.fits_of_le (paid_le_worth hpos _) h.worth_fits

/-- **An order is filled exactly** where nothing is rounded: the simulation of a positive
amount succeeds on every list of positive levels, it takes the shares of the levels, and
the proceeds are their price. -/
theorem filled_of_exact (hpos : ∀ l ∈ levels, l.Positive) (hamount : .zero < amount)
    (h : RoundsNothing s t levels amount) :
    ∃ r, ofLevels levels amount = .ok r ∧ Filled levels amount r ∧
      r.proceeds.toRat = paid (shares amount.toRat levels) :=
  exists_ofLevels hpos hamount (h.proceedsFit hpos)

/-! An order that ends inside the second of three levels. -/

def threeAsks : List Level :=
  [⟨.tenths 1000, .tenths 10, none⟩, ⟨.tenths 1010, .tenths 20, none⟩,
    ⟨.tenths 1050, .tenths 50, none⟩]

def twoAndHalf : Decimal := .tenths 25

theorem roundsNothing_threeAsks : RoundsNothing 1 1 threeAsks twoAndHalf where
  scales := by decide
  amount_grid := .of_scale_le (by decide)
  amounts_grid := by
    have hscales : ∀ l ∈ threeAsks, l.amount.scale ≤ 1 := by decide
    exact fun l hl => .of_scale_le (hscales l hl)
  prices_grid := by
    have hscales : ∀ l ∈ threeAsks, l.price.scale ≤ 1 := by decide
    exact fun l hl => .of_scale_le (hscales l hl)
  amount_fits := by norm_num [twoAndHalf, Decimal.toRat_tenths, UInt16.toNat_ofNat]
  volume_fits := by norm_num [threeAsks, volume, Decimal.toRat_tenths, UInt16.toNat_ofNat]
  worth_fits := by norm_num [threeAsks, worth, Decimal.toRat_tenths, UInt16.toNat_ofNat]

theorem shares_threeAsks : shares twoAndHalf.toRat threeAsks =
    [⟨⟨.tenths 1000, .tenths 10, none⟩, 1⟩, ⟨⟨.tenths 1010, .tenths 20, none⟩, 3 / 2⟩,
      ⟨⟨.tenths 1050, .tenths 50, none⟩, 0⟩] := by
  norm_num [shares, threeAsks, twoAndHalf, Decimal.toRat_tenths, UInt16.toNat_ofNat]

theorem filled_of_threeAsks :
    (∀ l ∈ threeAsks, l.Positive) ∧ .zero < twoAndHalf ∧ RoundsNothing 1 1 threeAsks twoAndHalf ∧
      ∃ r, ofLevels threeAsks twoAndHalf = .ok r ∧ r.filled.toRat = 5 / 2 ∧
        r.proceeds.toRat = 503 / 2 ∧ r.bestPrice = some (.tenths 1000) ∧
        r.worstPrice = some (.tenths 1010) ∧ r.remainingLevels = 2 ∧ r.status = .fullyFilled := by
  have hpos : ∀ l ∈ threeAsks, l.Positive := by decide
  have hamount : Decimal.zero < twoAndHalf := by decide
  obtain ⟨r, hr, hfilled, hproceeds⟩ := filled_of_exact hpos hamount roundsNothing_threeAsks
  refine ⟨hpos, hamount, roundsNothing_threeAsks, r, hr, ?_, ?_, hfilled.best, ?_, ?_, ?_⟩
  · rw [hfilled.taken, shares_threeAsks]
    norm_num [taken]
  · rw [hproceeds, shares_threeAsks]
    norm_num [paid, Share.paid, Decimal.toRat_tenths, UInt16.toNat_ofNat]
  · rw [hfilled.worst, shares_threeAsks]
    norm_num [touched]
  · rw [hfilled.remaining, shares_threeAsks]
    norm_num [Decimal.toRat_tenths, UInt16.toNat_ofNat]
  · have hlevels : threeAsks ≠ [] := by decide
    rw [hfilled.status, if_neg hlevels]
    norm_num [threeAsks, volume, twoAndHalf, Decimal.toRat_tenths, UInt16.toNat_ofNat]

end MarketDepth.Simulation
