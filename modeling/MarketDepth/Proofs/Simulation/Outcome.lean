/-
MarketDepth/Proofs/Simulation/Outcome.lean

How the walk of an order ends, whatever is rounded.

A walk ends when the levels are used up or when nothing more is wanted
(`Walk.Runs` has one rule for each).  What is still wanted is rounded at every level, but
rounding does not pass over zero or over what was wanted before, so it stays between the
two (`Walk.Runs.remaining`).  Hence no difference that the walk computes is out of range:
only a product or the sum of the proceeds can be too large, and then the order is refused
(`Walk.run_ok_or_overflow`).  When a walk has ended, its outcome can always be computed
(`Walk.Runs.exists_ofWalk`).

Main result: `Simulation.answers_of_positive`, what the simulation of an order on positive
levels can answer.
-/
import MarketDepth.Proofs.Decimal.Monotone
import MarketDepth.Proofs.Simulation.Walk

namespace MarketDepth.Simulation

variable {l : Level} {levels rest : List Level} {amount : Decimal} {r : Simulation} {total : Nat}

/-- What is left of a decimal when part of it is taken off, although it is rounded. -/
theorem sub?_between {a b d : Decimal} (hb : 0 ≤ b.toRat) (hle : b.toRat ≤ a.toRat)
    (h : a.sub? b = some d) : 0 ≤ d.toRat ∧ d.toRat ≤ a.toRat := by
  have hlow : Decimal.zero.toRat ≤ a.toRat - b.toRat := by
    rw [Decimal.toRat_zero]
    linarith
  have hhigh : a.toRat - b.toRat ≤ a.toRat := by linarith
  obtain ⟨d', hd', hzero, hmost⟩ := (Decimal.sub?_rounded hle).between hlow hhigh
  obtain rfl := Option.some.inj (h.symm.trans hd')
  rw [Decimal.le_iff_toRat] at hzero hmost
  rw [Decimal.toRat_zero] at hzero
  exact ⟨hzero, hmost⟩

namespace Walk

variable {w w₁ w' : Walk}

/-! ### One level -/

/-- What is taken of a level is neither negative nor more than is wanted. -/
theorem fill_between (hl : l.Positive) (hwanted : 0 ≤ w.remaining.toRat) :
    0 ≤ (min w.remaining l.amount).toRat ∧
      (min w.remaining l.amount).toRat ≤ w.remaining.toRat := by
  rw [Decimal.toRat_min]
  exact ⟨le_min hwanted hl.amount_pos.le, min_le_left _ _⟩

theorem take_remaining (hl : l.Positive) (hwanted : 0 ≤ w.remaining.toRat)
    (h : w.take l = .ok w₁) :
    0 ≤ w₁.remaining.toRat ∧ w₁.remaining.toRat ≤ w.remaining.toRat := by
  obtain ⟨hnonneg, hle⟩ := fill_between hl hwanted
  obtain ⟨proceeds, remaining, -, hsub, rfl⟩ := take_eq_ok_iff.mp h
  exact sub?_between hnonneg hle hsub

/-- Proceeds never go down, although they are rounded. -/
theorem take_proceeds (hl : l.Positive) (hwanted : 0 ≤ w.remaining.toRat)
    (hpaid : 0 ≤ w.proceeds.toRat) (h : w.take l = .ok w₁) : w.proceeds ≤ w₁.proceeds := by
  obtain ⟨hfill, -⟩ := fill_between hl hwanted
  obtain ⟨proceeds, remaining, hcollect, -, rfl⟩ := take_eq_ok_iff.mp h
  obtain ⟨cost, hcost, hadd⟩ := Option.bind_eq_some_iff.mp hcollect
  have hcost := Decimal.mul?_nonneg hfill hl.price_pos.le hcost
  rw [Decimal.le_iff_toRat]
  exact (Decimal.add?_faithful (add_nonneg hpaid hcost) hadd).below _ (by linarith)

/-- Only the proceeds can be out of range. -/
theorem take_ok_or_overflow (hl : l.Positive) (hwanted : 0 ≤ w.remaining.toRat) :
    (∃ w₁, w.take l = .ok w₁) ∨ w.take l = .error (.refused .overflow) := by
  obtain ⟨hfill, -⟩ := fill_between hl hwanted
  have hsub : (w.remaining.sub? (min w.remaining l.amount)).isSome :=
    Decimal.sub?_isSome (Decimal.nonneg_iff_toRat.mpr hwanted) (Decimal.nonneg_iff_toRat.mpr hfill)
  obtain ⟨remaining, hsub⟩ := Option.isSome_iff_exists.mp hsub
  cases hcollect : w.collect? (min w.remaining l.amount) l.price with
  | some proceeds => exact .inl ⟨_, take_eq_ok_iff.mpr ⟨proceeds, remaining, hcollect, hsub, rfl⟩⟩
  | none =>
    right
    unfold take
    dsimp only
    rw [hcollect]

/-! ### The course of a walk -/

/-- How a walk gets to its end. -/
inductive Runs : Walk → List Level → Walk → Prop
  /-- There are no levels left. -/
  | through (w : Walk) : Runs w [] w
  /-- Nothing more is wanted. -/
  | filled {w : Walk} {l : Level} {rest : List Level} (done : w.remaining.IsZero) :
      Runs w (l :: rest) w
  /-- The next level is taken from. -/
  | taken {w w₁ w' : Walk} {l : Level} {rest : List Level} (wants : ¬w.remaining.IsZero)
      (takes : w.take l = .ok w₁) (runs : Runs w₁ rest w') : Runs w (l :: rest) w'

theorem run_eq_ok_iff : w.run levels = .ok w' ↔ Runs w levels w' := by
  constructor
  · intro h
    induction levels generalizing w with
    | nil =>
      obtain rfl := Except.ok.inj h
      exact .through w
    | cons l rest ih =>
      unfold run at h
      split at h
      · next done =>
        obtain rfl := Except.ok.inj h
        exact .filled done
      · next wants =>
        cases htake : w.take l with
        | error e =>
          rw [htake] at h
          cases h
        | ok w₁ =>
          rw [htake] at h
          exact .taken wants htake (ih h)
  · intro h
    induction h with
    | through w => rfl
    | filled done =>
      unfold run
      rw [if_pos done]
    | taken wants takes _ ih =>
      unfold run
      rw [if_neg wants, takes]
      exact ih

/-- Whatever is rounded, what is still wanted only becomes less. -/
theorem Runs.remaining (h : Runs w levels w') (hpos : ∀ l ∈ levels, l.Positive)
    (hwanted : 0 ≤ w.remaining.toRat) :
    0 ≤ w'.remaining.toRat ∧ w'.remaining.toRat ≤ w.remaining.toRat := by
  induction h with
  | through w => exact ⟨hwanted, le_refl _⟩
  | filled done => exact ⟨hwanted, le_refl _⟩
  | taken wants takes _ ih =>
    obtain ⟨hl, hrest⟩ := List.forall_mem_cons.mp hpos
    obtain ⟨hnonneg, hless⟩ := take_remaining hl hwanted takes
    obtain ⟨hleft, hle⟩ := ih hrest hnonneg
    exact ⟨hleft, hle.trans hless⟩

theorem Runs.proceeds (h : Runs w levels w') (hpos : ∀ l ∈ levels, l.Positive)
    (hwanted : 0 ≤ w.remaining.toRat) (hpaid : 0 ≤ w.proceeds.toRat) :
    w.proceeds ≤ w'.proceeds := by
  induction h with
  | through w => exact Int.le_refl _
  | filled done => exact Int.le_refl _
  | taken wants takes _ ih =>
    obtain ⟨hl, hrest⟩ := List.forall_mem_cons.mp hpos
    obtain ⟨hnonneg, -⟩ := take_remaining hl hwanted takes
    have hmore := take_proceeds hl hwanted hpaid takes
    have hlater := ih hrest hnonneg (hpaid.trans (Decimal.le_iff_toRat.mp hmore))
    exact Int.le_trans hmore hlater

/-- The best price is that of the first level, if anything is taken. -/
theorem Runs.best (h : Runs w levels w') : w'.best =
    w.best.or (if w.remaining.IsZero then none else levels.head?.map (·.price)) := by
  induction h with
  | through w => simp
  | filled done => rw [if_pos done, Option.or_none]
  | @taken w w₁ w' l rest wants takes _ ih =>
    obtain ⟨proceeds, remaining, -, -, rfl⟩ := take_eq_ok_iff.mp takes
    rw [ih, if_neg wants]
    cases w.best <;> rfl

theorem Runs.best_of_start (h : (start amount).Runs levels w) (hamount : .zero < amount) :
    w.best = levels.head?.map (·.price) := by
  rw [h.best]
  show none.or (if amount.IsZero then none else _) = _
  rw [if_neg (Decimal.not_isZero_of_pos hamount), Option.none_or]

/-- The worst price is that of a level taken from. -/
theorem Runs.worst (h : Runs w levels w') :
    w'.worst = w.worst ∨ ∃ l ∈ levels, w'.worst = some l.price := by
  induction h with
  | through w => exact .inl rfl
  | filled done => exact .inl rfl
  | @taken w w₁ w' l rest wants takes _ ih =>
    obtain ⟨proceeds, remaining, -, -, rfl⟩ := take_eq_ok_iff.mp takes
    right
    obtain hsame | ⟨x, hx, hworst⟩ := ih
    · exact ⟨l, List.mem_cons_self, hsame⟩
    · exact ⟨x, List.mem_cons_of_mem _ hx, hworst⟩

/-- No more levels are used up than there are, and none is given back. -/
theorem Runs.exhausted (h : Runs w levels w') :
    w.exhausted ≤ w'.exhausted ∧ w'.exhausted ≤ w.exhausted + levels.length := by
  induction h with
  | through w => exact ⟨Nat.le_refl _, Nat.le_add_right _ _⟩
  | filled done => exact ⟨Nat.le_refl _, Nat.le_add_right _ _⟩
  | @taken w w₁ w' l rest wants takes _ ih =>
    obtain ⟨proceeds, remaining, -, -, rfl⟩ := take_eq_ok_iff.mp takes
    dsimp only at ih
    rw [List.length_cons]
    split at ih <;> omega

/-- On positive levels a walk gets to its end, or the proceeds become too large. -/
theorem run_ok_or_overflow (hpos : ∀ l ∈ levels, l.Positive) (hwanted : 0 ≤ w.remaining.toRat) :
    (∃ w', w.run levels = .ok w') ∨ w.run levels = .error (.refused .overflow) := by
  induction levels generalizing w with
  | nil => exact .inl ⟨w, rfl⟩
  | cons l rest ih =>
    obtain ⟨hl, hrest⟩ := List.forall_mem_cons.mp hpos
    unfold run
    split
    · exact .inl ⟨w, rfl⟩
    · obtain ⟨w₁, htake⟩ | hoverflow := take_ok_or_overflow hl hwanted
      · rw [htake]
        exact ih hrest (take_remaining hl hwanted htake).1
      · rw [hoverflow]
        exact .inr rfl

end Walk

/-! ### Outcomes -/

variable {w : Walk}

/-- The outcome says of a finished walk what it came to. -/
structure Reports (amount : Decimal) (total : Nat) (w : Walk) (r : Simulation) : Prop where
  filled : amount.sub? w.remaining = some r.filled
  proceeds : r.proceeds = w.proceeds
  best : r.bestPrice = w.best
  worst : r.worstPrice = w.worst
  remainingLevels : r.remainingLevels = total - w.exhausted
  status : r.status =
    if total = 0 then .insufficientLiquidity
    else if w.remaining.IsZero then .fullyFilled
    else .partiallyFilled

theorem ofWalk_reports (h : ofWalk amount total w = .ok r) : Reports amount total w r := by
  unfold ofWalk Decimal.sub at h
  cases hsub : amount.sub? w.remaining with
  | none =>
    rw [hsub] at h
    cases h
  | some filled =>
    rw [hsub] at h
    cases himpact : impact w.best w.worst with
    | error e =>
      rw [himpact] at h
      cases h
    | ok percent =>
      rw [himpact] at h
      obtain rfl := Except.ok.inj h
      exact ⟨hsub, rfl, rfl, rfl, rfl, rfl⟩

/-- An order that counts as filled wants nothing more. -/
theorem Reports.isZero (h : Reports amount total w r) (hfull : r.status = .fullyFilled) :
    w.remaining.IsZero := by
  have hstatus := h.status
  by_contra hwant
  rw [hfull, if_neg hwant] at hstatus
  split at hstatus <;> cases hstatus

/-- A walk from the start that has ended has an outcome: what was filled and the way
between the prices are differences of decimals that are not negative. -/
theorem Walk.Runs.exists_ofWalk (h : (Walk.start amount).Runs levels w)
    (hpos : ∀ l ∈ levels, l.Positive) (hamount : .zero < amount) :
    ∃ r, ofWalk amount total w = .ok r := by
  have hwanted : 0 < amount.toRat := Decimal.pos_iff_toRat.mp hamount
  obtain ⟨hleft, -⟩ := h.remaining hpos hwanted.le
  have hsub : (amount.sub? w.remaining).isSome :=
    Decimal.sub?_isSome (Int.le_of_lt hamount) (Decimal.nonneg_iff_toRat.mpr hleft)
  obtain ⟨filled, hsub⟩ := Option.isSome_iff_exists.mp hsub
  obtain ⟨percent, hpercent⟩ : ∃ d, impact w.best w.worst = .ok d := by
    apply exists_impact
    · intro d hd
      rw [h.best_of_start hamount] at hd
      obtain ⟨l, hl, rfl⟩ := Option.map_eq_some_iff.mp hd
      exact Int.le_of_lt (hpos l (List.mem_of_head? hl)).1
    · intro d hd
      obtain hworst | ⟨l, hl, hworst⟩ := h.worst
      · rw [hworst] at hd
        cases hd
      · rw [hworst] at hd
        obtain rfl := Option.some.inj hd
        exact Int.le_of_lt (hpos l hl).1
  unfold ofWalk Decimal.sub
  rw [hsub, hpercent]
  exact ⟨_, rfl⟩

/-- The simulation succeeds with every walk that gets to its end. -/
theorem Walk.Runs.exists_ofLevels (h : (Walk.start amount).Runs levels w)
    (hpos : ∀ l ∈ levels, l.Positive) (hamount : .zero < amount) :
    ∃ r, ofLevels levels amount = .ok r ∧ Reports amount levels.length w r := by
  obtain ⟨r, hr⟩ := h.exists_ofWalk hpos hamount
  exact ⟨r, (ofLevels_eq_ok_iff hamount).mpr ⟨w, Walk.run_eq_ok_iff.mpr h, hr⟩, ofWalk_reports hr⟩

/-- What the simulation of an order can answer: it refuses an amount that is not positive,
and for any other it succeeds or the proceeds are too large.  There is too little to take
exactly if there are no levels. -/
structure Answers (levels : List Level) (amount : Decimal) (answer : Except Failure Simulation) :
    Prop where
  refused : answer = .error (.refused (.invalidAmount amount)) ↔ amount ≤ .zero
  answered : .zero < amount → (∃ r, answer = .ok r) ∨ answer = .error (.refused .overflow)
  lacking : (∃ r, answer = .ok r ∧ r.status = .insufficientLiquidity) ↔
    .zero < amount ∧ levels = []

theorem ofLevels_of_not_pos (h : amount ≤ .zero) :
    ofLevels levels amount = .error (.refused (.invalidAmount amount)) :=
  if_pos h

/-- For a positive amount the simulation succeeds, or the proceeds become too large. -/
theorem ofLevels_ok_or_overflow (hpos : ∀ l ∈ levels, l.Positive) (hamount : .zero < amount) :
    (∃ r, ofLevels levels amount = .ok r) ∨
      ofLevels levels amount = .error (.refused .overflow) := by
  have hwanted : 0 ≤ (Walk.start amount).remaining.toRat := (Decimal.pos_iff_toRat.mp hamount).le
  obtain ⟨w, hrun⟩ | hoverflow := Walk.run_ok_or_overflow hpos hwanted
  · obtain ⟨r, hr, -⟩ := (Walk.run_eq_ok_iff.mp hrun).exists_ofLevels hpos hamount
    exact .inl ⟨r, hr⟩
  · right
    have hpositive : ¬amount ≤ .zero := Int.not_le.mpr hamount
    rw [ofLevels, if_neg hpositive, hoverflow]
    rfl

/-- An order finds nothing to take if and only if there are no levels. -/
theorem lacking_iff (hamount : .zero < amount) :
    (∃ r, ofLevels levels amount = .ok r ∧ r.status = .insufficientLiquidity) ↔ levels = [] := by
  constructor
  · rintro ⟨r, hr, hlacking⟩
    obtain ⟨w, -, hw⟩ := (ofLevels_eq_ok_iff hamount).mp hr
    have hstatus := (ofWalk_reports hw).status
    by_contra hlevels
    rw [hlacking, if_neg (by simpa using hlevels)] at hstatus
    split at hstatus <;> cases hstatus
  · rintro rfl
    have hrun : (Walk.start amount).Runs [] (Walk.start amount) := .through _
    obtain ⟨r, hr, hreports⟩ := hrun.exists_ofLevels (by simp) hamount
    exact ⟨r, hr, hreports.status.trans (if_pos rfl)⟩

theorem answers_of_positive (hpos : ∀ l ∈ levels, l.Positive) (amount : Decimal) :
    Answers levels amount (ofLevels levels amount) := by
  by_cases hamount : amount ≤ .zero
  · have hnot : ¬Decimal.zero < amount := Int.not_lt.mpr hamount
    rw [ofLevels_of_not_pos hamount]
    exact ⟨by simp [hamount], fun h => absurd h hnot, by simp [hnot]⟩
  · have hpositive : .zero < amount := Int.not_le.mp hamount
    have hanswer := ofLevels_ok_or_overflow hpos hpositive
    refine ⟨?_, fun _ => hanswer, ?_⟩
    · simp only [hamount, iff_false]
      obtain ⟨r, hr⟩ | hoverflow := hanswer
      · simp [hr]
      · simp [hoverflow]
    · rw [lacking_iff hpositive]
      simp [hpositive]

end MarketDepth.Simulation
