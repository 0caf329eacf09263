/-
MarketDepth/Proofs/Simulation/Impact.lean

Larger orders.

A larger order goes at least as far into the book as a smaller one, and costs at least as
much, although both are computed with rounded amounts and rounded prices.  As long as both
walks go on, they take from the same levels, and whatever the one has is no more than what
the other has (`Walk.Below`); every single operation keeps the order of its operands, so
taking from a level keeps this too (`Walk.Below.take`).  The walk of the smaller order can
only end first, and from there on the other one only adds to what it has
(`Walk.Below.run`).

Main result: `Simulation.impact_of_le`.
-/
import MarketDepth.Proofs.Ladder.Sound
import MarketDepth.Proofs.Simulation.Outcome

namespace MarketDepth.Simulation

variable {l : Level} {levels rest : List Level} {side : Side} {amount amount' : Decimal}

/-- The second price is the first one, or the first one stands ahead of it. -/
def NotAhead (side : Side) (p p' : Option Decimal) : Prop :=
  p' = p ∨ ∃ x ∈ p, ∃ y ∈ p', side.Ahead x y

namespace Walk

variable {w w' w₁' u' : Walk}

/-- The walk of a smaller order beside that of a larger one, while both go on. -/
structure Below (w w' : Walk) : Prop where
  wanted : 0 ≤ w.remaining.toRat
  paid : 0 ≤ w.proceeds.toRat
  remaining : w.remaining ≤ w'.remaining
  proceeds : w.proceeds ≤ w'.proceeds
  worst : w'.worst = w.worst
  exhausted : w.exhausted ≤ w'.exhausted

/-- The walk of a smaller order that has ended beside that of a larger one. -/
structure EndsBelow (side : Side) (w w' : Walk) : Prop where
  proceeds : w.proceeds ≤ w'.proceeds
  worst : NotAhead side w.worst w'.worst
  exhausted : w.exhausted ≤ w'.exhausted

theorem Below.endsBelow (h : Below w w') : EndsBelow side w w' :=
  ⟨h.proceeds, .inl h.worst, h.exhausted⟩

theorem below_start (hamount : .zero < amount) (hle : amount ≤ amount') :
    Below (start amount) (start amount') where
  wanted := (Decimal.pos_iff_toRat.mp hamount).le
  paid := Decimal.toRat_zero.ge
  remaining := hle
  proceeds := Int.le_refl _
  worst := rfl
  exhausted := Nat.le_refl _

/-! ### One level -/

namespace Below

theorem wanted' (h : Below w w') : 0 ≤ w'.remaining.toRat :=
  h.wanted.trans (Decimal.le_iff_toRat.mp h.remaining)

theorem paid' (h : Below w w') : 0 ≤ w'.proceeds.toRat :=
  h.paid.trans (Decimal.le_iff_toRat.mp h.proceeds)

/-- The smaller order takes no more of a level. -/
theorem fill_le (h : Below w w') (l : Level) :
    min w.remaining l.amount ≤ min w'.remaining l.amount := by
  rw [Decimal.le_iff_toRat, Decimal.toRat_min, Decimal.toRat_min]
  exact min_le_min_right _ (Decimal.le_iff_toRat.mp h.remaining)

/-- Where the larger order can pay for what it takes, the smaller one can. -/
theorem exists_collect? (h : Below w w') (hl : l.Positive) {proceeds' : Decimal}
    (hcollect' : w'.collect? (min w'.remaining l.amount) l.price = some proceeds') :
    ∃ proceeds, w.collect? (min w.remaining l.amount) l.price = some proceeds ∧
      proceeds ≤ proceeds' := by
  obtain ⟨hfill, -⟩ := fill_between hl h.wanted
  obtain ⟨cost', hcost', hadd'⟩ := Option.bind_eq_some_iff.mp hcollect'
  obtain ⟨cost, hcost, hcost_le⟩ :=
    Decimal.mul?_mono hfill hl.price_pos.le (h.fill_le l) (Int.le_refl _) hcost'
  have hcost_nonneg := Decimal.mul?_nonneg hfill hl.price_pos.le hcost
  obtain ⟨proceeds, hadd, hle⟩ := Decimal.add?_mono h.paid hcost_nonneg h.proceeds hcost_le hadd'
  refine ⟨proceeds, ?_, hle⟩
  rw [collect?, hcost, Option.bind_some, hadd]

/-- What the smaller order leaves wanted is no more than what the larger one leaves. -/
theorem exists_sub? (h : Below w w') (hl : l.Positive) {remaining' : Decimal}
    (hsub' : w'.remaining.sub? (min w'.remaining l.amount) = some remaining') :
    ∃ remaining, w.remaining.sub? (min w.remaining l.amount) = some remaining ∧
      remaining ≤ remaining' := by
  obtain ⟨-, hfill⟩ := fill_between hl h.wanted
  have hremaining := Decimal.le_iff_toRat.mp h.remaining
  refine Decimal.sub?_mono hfill ?_ hsub'
  rw [Decimal.toRat_min, Decimal.toRat_min]
  -- the smaller order ends on this level, or neither does
  rcases le_total w.remaining.toRat l.amount.toRat with hends | hon
  · rw [min_eq_left hends, sub_self]
    exact sub_nonneg.mpr (min_le_left _ _)
  · rw [min_eq_right hon, min_eq_right (hon.trans hremaining)]
    exact sub_le_sub_right hremaining _

/-- A level that the smaller order uses up is used up by the larger one. -/
theorem fills (h : Below w w') (hfull : min w.remaining l.amount ≈ l.amount) :
    min w'.remaining l.amount ≈ l.amount := by
  rw [Decimal.equiv_iff_toRat, Decimal.toRat_min, min_eq_right_iff] at hfull ⊢
  exact hfull.trans (Decimal.le_iff_toRat.mp h.remaining)

/-- Taking from a level keeps what the smaller order has below what the larger one has. -/
theorem take (h : Below w w') (hl : l.Positive) (htake' : w'.take l = .ok w₁') :
    ∃ w₁, w.take l = .ok w₁ ∧ w₁.worst = some l.price ∧ Below w₁ w₁' := by
  obtain ⟨proceeds', remaining', hcollect', hsub', rfl⟩ := take_eq_ok_iff.mp htake'
  obtain ⟨proceeds, hcollect, hproceeds⟩ := h.exists_collect? hl hcollect'
  obtain ⟨remaining, hsub, hremaining⟩ := h.exists_sub? hl hsub'
  have htake := take_eq_ok_iff.mpr ⟨proceeds, remaining, hcollect, hsub, rfl⟩
  have hmore := Decimal.le_iff_toRat.mp (take_proceeds hl h.wanted h.paid htake)
  refine ⟨_, htake, rfl, ?_⟩
  constructor
  · exact (take_remaining hl h.wanted htake).1
  · exact h.paid.trans hmore
  · exact hremaining
  · exact hproceeds
  · rfl
  · have hcount := h.exhausted
    by_cases hfull : min w.remaining l.amount ≈ l.amount
    · simp only [hfull, h.fills hfull, if_true]
      omega
    · simp only [hfull, if_false]
      omega

/-! ### The whole walk -/

/-- Where the walk of the larger order gets to its end, that of the smaller one does, and
comes to no more.  The one that ends first has taken from a level already, and that stands
ahead of all that are left. -/
theorem run (h : Below w w') (hsound : Levels.Sound side levels)
    (hstarted : w.remaining.IsZero → ∃ p, w.worst = some p ∧ ∀ l ∈ levels, side.Ahead p l.price)
    (hrun' : Runs w' levels u') : ∃ u, Runs w levels u ∧ EndsBelow side u u' := by
  induction hrun' generalizing w with
  | through w' => exact ⟨w, .through w, h.endsBelow⟩
  | filled done' =>
    have hzero : w.remaining.toRat ≤ 0 :=
      (Decimal.le_iff_toRat.mp h.remaining).trans (Decimal.isZero_iff_toRat.mp done').le
    have done : w.remaining.IsZero := Decimal.isZero_iff_toRat.mpr (le_antisymm hzero h.wanted)
    exact ⟨w, .filled done, h.endsBelow⟩
  | @taken w' w₁' u' l rest wants' takes' runs' ih =>
    have hrun' : Runs w' (l :: rest) u' := .taken wants' takes' runs'
    obtain ⟨hl, hahead, hrest⟩ := Levels.sound_cons.mp hsound
    by_cases done : w.remaining.IsZero
    · -- the smaller order is filled, and the larger one goes on
      refine ⟨w, .filled done, ?_, ?_, ?_⟩
      · exact Int.le_trans h.proceeds (hrun'.proceeds hsound.positive h.wanted' h.paid')
      · obtain hsame | ⟨x, hx, hworst⟩ := hrun'.worst
        · exact .inl (hsame.trans h.worst)
        · obtain ⟨p, hp, hbehind⟩ := hstarted done
          exact .inr ⟨p, hp, x.price, hworst, hbehind x hx⟩
      · exact Nat.le_trans h.exhausted hrun'.exhausted.1
    · obtain ⟨w₁, htake, hworst, hbelow⟩ := h.take hl takes'
      obtain ⟨u, hrun, hends⟩ := ih hbelow hrest fun _ => ⟨l.price, hworst, hahead⟩
      exact ⟨u, .taken done htake hrun, hends⟩

end Below

end Walk

/-! ### Outcomes -/

variable {r r' : Simulation}

/-- The outcome of a smaller order beside that of a larger one: it costs no more, leaves no
fewer levels, begins at the same price, and gets no further from it. -/
structure NoFurther (side : Side) (r r' : Simulation) : Prop where
  proceeds : r.proceeds ≤ r'.proceeds
  remainingLevels : r'.remainingLevels ≤ r.remainingLevels
  bestPrice : r'.bestPrice = r.bestPrice
  worstPrice : NotAhead side r.worstPrice r'.worstPrice

theorem exists_noFurther (hsound : Levels.Sound side levels) (hamount : .zero < amount)
    (hle : amount ≤ amount') (hr' : ofLevels levels amount' = .ok r') :
    ∃ r, ofLevels levels amount = .ok r ∧ NoFurther side r r' := by
  have hamount' : .zero < amount' := Int.lt_of_lt_of_le hamount hle
  have hwants : ¬(Walk.start amount).remaining.IsZero := Decimal.not_isZero_of_pos hamount
  obtain ⟨w', hrun', hw'⟩ := (ofLevels_eq_ok_iff hamount').mp hr'
  have hrun' := Walk.run_eq_ok_iff.mp hrun'
  obtain ⟨w, hrun, hends⟩ :=
    (Walk.below_start hamount hle).run hsound (fun done => absurd done hwants) hrun'
  obtain ⟨r, hr, hreports⟩ := hrun.exists_ofLevels hsound.positive hamount
  have hreports' := ofWalk_reports hw'
  refine ⟨r, hr, ?_, ?_, ?_, ?_⟩
  · rw [hreports.proceeds, hreports'.proceeds]
    exact hends.proceeds
  · rw [hreports.remainingLevels, hreports'.remainingLevels]
    exact Nat.sub_le_sub_left hends.exhausted _
  · rw [hreports.best, hreports'.best, hrun.best_of_start hamount, hrun'.best_of_start hamount']
  · rw [hreports.worst, hreports'.worst]
    exact hends.worst

/-- **A larger order has no smaller impact**, whatever is rounded.  On levels in strict order
that are positive, if the larger of two orders can be simulated, so can the smaller one; it
costs no more, leaves no fewer levels, begins at the same price, and its worst price is the
same or nearer the top.  So what is too large for one amount is too large for every larger
one. -/
theorem impact_of_le (hsound : Levels.Sound side levels) (hamount : .zero < amount)
    (hle : amount ≤ amount') :
    (∀ r', ofLevels levels amount' = .ok r' →
      ∃ r, ofLevels levels amount = .ok r ∧ NoFurther side r r') ∧
    (ofLevels levels amount = .error (.refused .overflow) →
      ofLevels levels amount' = .error (.refused .overflow)) := by
  have hamount' : .zero < amount' := Int.lt_of_lt_of_le hamount hle
  refine ⟨fun r' => exists_noFurther hsound hamount hle, ?_⟩
  intro hoverflow
  obtain ⟨r', hr'⟩ | hoverflow' := ofLevels_ok_or_overflow hsound.positive hamount'
  · obtain ⟨r, hr, -⟩ := exists_noFurther hsound hamount hle hr'
    rw [hoverflow] at hr
    cases hr
  · exact hoverflow'

/-! Two asks, the first at a price that takes all the places there are, so that what a part
of it costs is rounded.  The smaller order ends on it, the larger one goes on. -/

def thirdAsks : List Level :=
  [⟨⟨3333333333333333333333333333, 28, by decide, by decide⟩, .tenths 10, none⟩,
    ⟨.tenths 7, .tenths 20, none⟩]

theorem impact_of_thirdAsks :
    Levels.Sound .ask thirdAsks ∧ .zero < Decimal.tenths 7 ∧ Decimal.tenths 7 ≤ .tenths 25 ∧
      ∃ r r', ofLevels thirdAsks (.tenths 7) = .ok r ∧ ofLevels thirdAsks (.tenths 25) = .ok r' ∧
        r'.worstPrice = some (.tenths 7) ∧ NoFurther .ask r r' := by
  have hsound : Levels.Sound .ask thirdAsks := by decide
  have hamount : Decimal.zero < .tenths 7 := by decide
  have hle : Decimal.tenths 7 ≤ .tenths 25 := by decide
  obtain ⟨r', hr', hworst⟩ : ∃ r', ofLevels thirdAsks (.tenths 25) = .ok r' ∧
      r'.worstPrice = some (.tenths 7) := ⟨_, rfl, rfl⟩
  obtain ⟨r, hr, hfurther⟩ := (impact_of_le hsound hamount hle).1 r' hr'
  exact ⟨hsound, hamount, hle, r, r', hr, hr', hworst, hfurther⟩

end MarketDepth.Simulation
