/-
MarketDepth/Proofs/Simulation/Average.lean

What is filled, and at which average price.

A simulated order is meant to be filled with the smaller of the amount and what rests
on the side, at an average price between the best and the worst one.  Decimals do not
keep this for all amounts: what is still wanted of a very large order can absorb a level
that is taken from it (`Book.unfilled_of_hugeOrder`).  It holds where the amounts
have few enough places and digits, and then a rounded average is as good as an exact
one, since rounding does not pass over the prices.

Main result: `Book.laws_of_run`.
-/
import MarketDepth.Book.Figures
import MarketDepth.Proofs.Book.Order
import MarketDepth.Proofs.Decimal.Quotient
import MarketDepth.Proofs.Simulation.Outcome

namespace MarketDepth

open Decimal (OnGrid limit)

/-! ### Totals -/

namespace Totals

variable {levels : List Level} {amount sum : Decimal} {l : Level} {s : Nat} {x : ℚ}

/-- A sum is exact until it reaches an amount, and then it stays above it. -/
structure UpTo (amount sum : Decimal) (x : ℚ) : Prop where
  nonneg : 0 ≤ sum.toRat
  below : x < amount.toRat → sum.toRat = x
  above : amount.toRat ≤ x → amount ≤ sum

theorem UpTo.addSat (h : UpTo amount sum x) (hl : 0 ≤ l.amount.toRat) (hx : OnGrid s x)
    (hgrid : OnGrid s l.amount.toRat) (hs : s ≤ 28) (hfits : amount.toRat * 10 ^ s < limit) :
    UpTo amount (sum.addSat l.amount) (x + l.amount.toRat) where
  nonneg := by
    rw [← Decimal.toRat_zero, ← Decimal.le_iff_toRat]
    refine Decimal.le_addSat h.nonneg hl ?_
    rw [Decimal.toRat_zero]
    exact add_nonneg h.nonneg hl
  below := by
    intro hlt
    have hsum : sum.toRat = x := h.below (by linarith)
    have hx₀ : 0 ≤ x := hsum ▸ h.nonneg
    obtain ⟨e, he⟩ := (hx.add hgrid).exists_decimal hs (add_nonneg hx₀ hl)
      (Decimal.fits_of_le hlt.le hfits)
    have hadd : 0 ≤ sum.toRat + l.amount.toRat := add_nonneg h.nonneg hl
    obtain ⟨d, hd, hvalue⟩ := (Decimal.add?_rounded hadd).eq (e := e) (by rw [he, hsum])
    rw [Decimal.addSat, hd, Option.getD_some, hvalue, hsum]
  above := by
    intro hle
    refine Decimal.le_addSat h.nonneg hl ?_
    rcases lt_or_ge x amount.toRat with hlt | hge
    · rw [h.below hlt]
      exact hle
    · have := Decimal.le_iff_toRat.mp (h.above hge)
      linarith

theorem upTo_foldl {t : Totals} (hpos : ∀ l ∈ levels, l.Positive) (hs : s ≤ 28)
    (hgrid : ∀ l ∈ levels, OnGrid s l.amount.toRat) (hfits : amount.toRat * 10 ^ s < limit)
    (hx : OnGrid s x) (h : UpTo amount t.amount x) :
    UpTo amount
      (levels.foldl (fun t l => ⟨t.amount.addSat l.amount, t.value.addSat l.value⟩) t).amount
      (x + Simulation.volume levels) := by
  induction levels generalizing t x with
  | nil =>
    show UpTo amount t.amount (x + 0)
    rw [add_zero]
    exact h
  | cons l rest ih =>
    obtain ⟨hl, hrest⟩ := List.forall_mem_cons.mp hpos
    obtain ⟨hlGrid, hrestGrid⟩ := List.forall_mem_cons.mp hgrid
    rw [Simulation.volume_cons, ← add_assoc]
    exact ih hrest hrestGrid (hx.add hlGrid) (h.addSat hl.amount_pos.le hx hlGrid hs hfits)

/-- The total counts exactly as far as the amount goes. -/
theorem min_ofLevels (hpos : ∀ l ∈ levels, l.Positive) (hamount : 0 < amount.toRat) (hs : s ≤ 28)
    (hgrid : ∀ l ∈ levels, OnGrid s l.amount.toRat) (hfits : amount.toRat * 10 ^ s < limit) :
    (min amount (ofLevels levels).amount).toRat =
      min amount.toRat (Simulation.volume levels) := by
  have hzero : UpTo amount Decimal.zero 0 :=
    ⟨Decimal.toRat_zero.ge, fun _ => Decimal.toRat_zero, fun h => absurd hamount (not_lt.mpr h)⟩
  have htotal : UpTo amount (ofLevels levels).amount (0 + Simulation.volume levels) :=
    upTo_foldl (t := ⟨.zero, .zero⟩) hpos hs hgrid hfits .zero hzero
  rw [zero_add] at htotal
  rw [Decimal.toRat_min]
  rcases lt_or_ge (Simulation.volume levels) amount.toRat with hlt | hge
  · rw [htotal.below hlt]
  · rw [min_eq_left hge, min_eq_left (Decimal.le_iff_toRat.mp (htotal.above hge))]

end Totals

namespace Simulation

variable {side : Side} {levels : List Level} {amount best worst lo hi : Decimal} {xs : List Share}
  {wanted : ℚ} {s t : Nat} {r : Simulation} {w w' : Walk}

/-! ### Averages -/

/-- What is paid lies between what the amount costs at two prices, if the prices of all
shares that are not empty do. -/
theorem paid_between (hnonneg : ∀ x ∈ xs, 0 ≤ x.taken)
    (h : ∀ x ∈ xs, 0 < x.taken → lo ≤ x.level.price ∧ x.level.price ≤ hi) :
    lo.toRat * taken xs ≤ paid xs ∧ paid xs ≤ hi.toRat * taken xs := by
  induction xs with
  | nil => simp [taken, paid]
  | cons x xs ih =>
    obtain ⟨hx, hxs⟩ := List.forall_mem_cons.mp hnonneg
    obtain ⟨hprice, hprices⟩ := List.forall_mem_cons.mp h
    obtain ⟨hlow, hhigh⟩ := ih hxs hprices
    have hshare : lo.toRat * x.taken ≤ x.paid ∧ x.paid ≤ hi.toRat * x.taken := by
      rw [Share.paid, mul_comm x.taken]
      rcases hx.eq_or_lt with hzero | hpos
      · rw [← hzero]
        simp
      · obtain ⟨hl, hh⟩ := hprice hpos
        exact ⟨mul_le_mul_of_nonneg_right (Decimal.le_iff_toRat.mp hl) hx,
          mul_le_mul_of_nonneg_right (Decimal.le_iff_toRat.mp hh) hx⟩
    simp only [taken, paid, List.map_cons, List.sum_cons, mul_add]
    exact ⟨add_le_add hshare.1 hlow, add_le_add hshare.2 hhigh⟩

/-- A quotient of decimals with the values of what is paid and what is taken is between
the prices, although it is rounded. -/
theorem exists_average {proceeds filled : Decimal} (hnonneg : ∀ x ∈ xs, 0 ≤ x.taken)
    (h : ∀ x ∈ xs, 0 < x.taken → lo ≤ x.level.price ∧ x.level.price ≤ hi)
    (hproceeds : proceeds.toRat = paid xs) (hpaid : 0 ≤ paid xs)
    (hfilled : filled.toRat = taken xs) (hpos : 0 < taken xs) :
    ∃ average, proceeds.div? filled = some average ∧ lo ≤ average ∧ average ≤ hi := by
  obtain ⟨hlow, hhigh⟩ := paid_between hnonneg h
  rw [← hproceeds] at hpaid hlow hhigh
  rw [← hfilled] at hpos hlow hhigh
  refine (Decimal.div?_rounded hpaid hpos).between ?_ ?_
  · rwa [le_div_iff₀ hpos]
  · rwa [div_le_iff₀ hpos]

/-! ### Best and worst price -/

theorem not_ahead_best (hordered : Levels.Ordered side levels)
    (hbest : levels.head?.map (·.price) = some best) {l : Level} (hl : l ∈ levels) :
    ¬side.Ahead l.price best := by
  cases levels with
  | nil => cases hl
  | cons first rest =>
    obtain rfl := Option.some.inj hbest
    rcases List.mem_cons.mp hl with rfl | hl
    · exact fun h => h.asymm h
    · exact ((List.pairwise_cons.mp hordered).1 l hl).asymm

theorem exists_best (hlevels : levels ≠ []) :
    ∃ best, levels.head?.map (·.price) = some best := by
  obtain ⟨l, rest, rfl⟩ := List.exists_cons_of_ne_nil hlevels
  exact ⟨l.price, rfl⟩

/-- The first level is taken from, and so there is a last one. -/
theorem exists_worst (hpos : ∀ l ∈ levels, l.Positive) (hlevels : levels ≠ [])
    (hwanted : 0 < wanted) :
    ∃ worst, (touched (shares wanted levels)).getLast?.map (·.level.price) = some worst := by
  obtain ⟨l, rest, rfl⟩ := List.exists_cons_of_ne_nil hlevels
  obtain ⟨hl, hrest⟩ := List.forall_mem_cons.mp hpos
  rw [shares_cons hrest hwanted.le, touched_cons (lt_min hl.amount_pos hwanted), List.getLast?_cons]
  exact ⟨_, rfl⟩

theorem not_worst_ahead (hordered : Levels.Ordered side levels)
    (hworst : (touched (shares wanted levels)).getLast?.map (·.level.price) = some worst)
    {x : Share} (hx : x ∈ shares wanted levels) (htaken : 0 < x.taken) :
    ¬side.Ahead worst x.level.price := by
  obtain ⟨last, hlast, rfl⟩ := Option.map_eq_some_iff.mp hworst
  obtain ⟨front, hfront⟩ := List.getLast?_eq_some_iff.mp hlast
  -- the shares stand in the order of their levels
  have htouched : (touched (shares wanted levels)).Pairwise fun x y =>
      side.Ahead x.level.price y.level.price := by
    rw [← map_level_shares wanted levels, Levels.Ordered, List.pairwise_map] at hordered
    exact hordered.sublist List.filter_sublist
  have hmem : x ∈ touched (shares wanted levels) :=
    List.mem_filter.mpr ⟨hx, decide_eq_true htaken⟩
  rw [hfront] at htouched hmem
  rcases List.mem_append.mp hmem with hx | hx
  · exact ((List.pairwise_append.mp htouched).2.2 x hx last (List.mem_singleton_self _)).asymm
  · obtain rfl := List.mem_singleton.mp hx
    exact fun h => h.asymm h

/-- Where the proceeds are not rounded, the average price is not ahead of the best price,
nor is the worst price ahead of it. -/
theorem average_of_filled (hordered : Levels.Ordered side levels)
    (hpos : ∀ l ∈ levels, l.Positive) (hlevels : levels ≠ []) (hamount : .zero < amount)
    (h : Filled levels amount r) (hproceeds : r.proceeds.toRat = paid (shares amount.toRat levels))
    (haverage : r.averagePrice = r.proceeds.div? r.filled) :
    ∃ average best worst, r.averagePrice = some average ∧ r.bestPrice = some best ∧
      r.worstPrice = some worst ∧ ¬side.Ahead average best ∧ ¬side.Ahead worst average := by
  have hwanted : 0 < amount.toRat := Decimal.pos_iff_toRat.mp hamount
  have hnonneg : ∀ x ∈ shares amount.toRat levels, 0 ≤ x.taken := fun x hx => taken_nonneg hpos hx
  have htaken : 0 < taken (shares amount.toRat levels) := by
    rw [taken_shares hpos hwanted.le]
    exact lt_min hwanted (volume_pos hpos hlevels)
  obtain ⟨best, hbest⟩ := exists_best hlevels
  obtain ⟨worst, hworst⟩ := exists_worst hpos hlevels hwanted
  have hprices : ∀ x ∈ shares amount.toRat levels, 0 < x.taken →
      ¬side.Ahead x.level.price best ∧ ¬side.Ahead worst x.level.price := by
    intro x hx hpositive
    exact ⟨not_ahead_best hordered hbest (mem_of_mem_shares hx),
      not_worst_ahead hordered hworst hx hpositive⟩
  rw [haverage, h.best, h.worst, hbest, hworst]
  -- the best price is the lowest of the asks and the highest of the bids
  cases side with
  | ask =>
    obtain ⟨average, hdiv, hlow, hhigh⟩ := exists_average hnonneg
      (fun x hx hpositive => ⟨Int.not_lt.mp (hprices x hx hpositive).1,
        Int.not_lt.mp (hprices x hx hpositive).2⟩)
      hproceeds (paid_nonneg hpos) h.taken htaken
    exact ⟨average, best, worst, hdiv, rfl, rfl, Int.not_lt.mpr hlow, Int.not_lt.mpr hhigh⟩
  | bid =>
    obtain ⟨average, hdiv, hlow, hhigh⟩ := exists_average hnonneg
      (fun x hx hpositive => ⟨Int.not_lt.mp (hprices x hx hpositive).2,
        Int.not_lt.mp (hprices x hx hpositive).1⟩)
      hproceeds (paid_nonneg hpos) h.taken htaken
    exact ⟨average, best, worst, hdiv, rfl, rfl, Int.not_lt.mpr hhigh, Int.not_lt.mpr hlow⟩

/-! ### Orders of any size -/

/-- Whatever is rounded, no more is filled than was wanted, and all of it if the order counts
as filled. -/
theorem filled_between (hpos : ∀ l ∈ levels, l.Positive) (hamount : .zero < amount)
    (h : ofLevels levels amount = .ok r) :
    .zero ≤ r.filled ∧ r.filled ≤ amount ∧ (r.status = .fullyFilled → r.filled ≈ amount) := by
  obtain ⟨w, hrun, hw⟩ := (ofLevels_eq_ok_iff hamount).mp h
  have hwanted : 0 < amount.toRat := Decimal.pos_iff_toRat.mp hamount
  obtain ⟨hlow, hhigh⟩ := (Walk.run_eq_ok_iff.mp hrun).remaining hpos hwanted.le
  have hreports := ofWalk_reports hw
  obtain ⟨hnonneg, hmost⟩ := sub?_between hlow hhigh hreports.filled
  refine ⟨?_, Decimal.le_iff_toRat.mpr hmost, ?_⟩
  · rw [Decimal.le_iff_toRat, Decimal.toRat_zero]
    exact hnonneg
  · intro hfull
    have hzero := Decimal.isZero_iff_toRat.mp (hreports.isZero hfull)
    obtain ⟨d, hd, hvalue⟩ := (Decimal.sub?_rounded hhigh).eq (e := amount) (by
      show amount.toRat = amount.toRat - w.remaining.toRat
      rw [hzero, sub_zero])
    obtain rfl := Option.some.inj (hreports.filled.symm.trans hd)
    rw [Decimal.equiv_iff_toRat, hvalue, hzero]
    exact sub_zero _

end Simulation

namespace Book

open Simulation

/-- **What a simulated order takes from a book.**  Whatever was asked of the book before, no
more is filled than was wanted, and all of it if the order counts as filled.  If the amounts
have few enough places and digits, what is filled is the smaller of the amount and the total
of the side; and if what is paid has too, there is an average price, and it lies between the
best and the worst one. -/
theorem laws_of_run (key : Key) (options : Options) (as : List Call) (buy : Bool)
    (amount : Decimal) (r : Simulation) :
    let b := (empty key options).run as
    let l := b.ladder (.consumedBy buy)
    l.levels ≠ [] → .zero < amount → b.simulate amount buy = .ok r →
      (.zero ≤ r.filled ∧ r.filled ≤ amount ∧ (r.status = .fullyFilled → r.filled ≈ amount)) ∧
      (∀ s, AmountsFit s l.levels amount → r.filled ≈ min amount l.totals.amount) ∧
      ∀ s t, ProceedsFit s t l.levels amount →
        ∃ average best worst, r.averagePrice = some average ∧ r.bestPrice = some best ∧
          r.worstPrice = some worst ∧
          if buy then best ≤ average ∧ average ≤ worst else worst ≤ average ∧ average ≤ best := by
  intro b l hlevels hamount h
  have hsound : SoundOn (.consumedBy buy) l := run_sound key options as (.consumedBy buy)
  have hordered := hsound.ordered
  have hpos := hsound.2.positive
  have hwanted : 0 < amount.toRat := Decimal.pos_iff_toRat.mp hamount
  refine ⟨filled_between hpos hamount h, ?_, ?_⟩
  · intro s hfit
    obtain ⟨hfilled, -⟩ := filled_of_ok hpos hamount hfit h
    have htotal := Totals.min_ofLevels hpos hwanted hfit.places hfit.amounts_grid hfit.amount_fits
    rw [Decimal.equiv_iff_toRat, hfilled.least]
    exact htotal.symm
  · intro s t hfit
    obtain ⟨hfilled, haverage⟩ := filled_of_ok hpos hamount hfit.toAmountsFit h
    obtain ⟨r', hr', -, hproceeds⟩ := exists_ofLevels hpos hamount hfit
    obtain rfl := Except.ok.inj (h.symm.trans hr')
    obtain ⟨average, best, worst, haverage, hbest, hworst, hfirst, hlast⟩ :=
      average_of_filled hordered hpos hlevels hamount hfilled hproceeds haverage
    refine ⟨average, best, worst, haverage, hbest, hworst, ?_⟩
    cases buy with
    | true => exact ⟨Int.not_lt.mp hfirst, Int.not_lt.mp hlast⟩
    | false => exact ⟨Int.not_lt.mp hlast, Int.not_lt.mp hfirst⟩

/-! A new book that is verified, with asks that are loaded. -/

def bookOfAsks (asks : List Level) : Book :=
  (empty ⟨"binance", ⟨"BTC", "USDT"⟩, .spot⟩ { verify := true }).run
    [⟨.restore [] asks 1, .empty 0, 0⟩]

theorem laws_of_threeAsks :
    ((bookOfAsks threeAsks).ladder .ask).levels ≠ [] ∧ .zero < twoAndHalf ∧
      ∃ r, (bookOfAsks threeAsks).simulate twoAndHalf true = .ok r ∧
        r.filled ≈ min twoAndHalf ((bookOfAsks threeAsks).ladder .ask).totals.amount ∧
        ∃ average best worst, r.averagePrice = some average ∧ r.bestPrice = some best ∧
          r.worstPrice = some worst ∧ best ≤ average ∧ average ≤ worst := by
  have hlevels : ((bookOfAsks threeAsks).ladder .ask).levels ≠ [] := by decide
  have hpos : ∀ l ∈ threeAsks, l.Positive := by decide
  have hamount : Decimal.zero < twoAndHalf := by decide
  have hfit := roundsNothing_threeAsks.proceedsFit hpos
  obtain ⟨r, hr, -⟩ := exists_ofLevels hpos hamount hfit
  obtain ⟨-, hfilled, haverage⟩ := laws_of_run _ _ _ true twoAndHalf r hlevels hamount hr
  exact ⟨hlevels, hamount, r, hr, hfilled 1 hfit.toAmountsFit, haverage 1 1 hfit⟩

/-- The amount `10 ^ 28`. -/
def huge : Decimal := .ofNat 10000000000000000000000000000

/-- Less than half a unit of the last digit of the amount. -/
def thinAsk : Level := ⟨.hundred, .tenths 4, none⟩

/-- A level that is small beside the order is taken and paid for, and yet nothing is filled,
since what is still wanted rounds back to what it was. -/
theorem unfilled_of_hugeOrder :
    ((bookOfAsks [thinAsk]).ladder .ask).levels ≠ [] ∧ .zero < huge ∧
      ∃ r, (bookOfAsks [thinAsk]).simulate huge true = .ok r ∧ r.filled ≈ .zero ∧
        ¬r.filled ≈ min huge ((bookOfAsks [thinAsk]).ladder .ask).totals.amount ∧
        r.averagePrice = none := by
  refine ⟨by decide, by decide, _, rfl, ?_, ?_, ?_⟩
  · decide
  · decide
  · decide

end Book

end MarketDepth
