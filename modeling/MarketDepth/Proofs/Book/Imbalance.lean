/-
MarketDepth/Proofs/Book/Imbalance.lean

How a book leans to one side.

The imbalance of a book is the difference of the amounts on its two sides over their sum.
Each of the amounts is a sum itself, of however many levels, rounded with every level and
bounded by the largest decimal.  Rounding never passes over a decimal; so a total is never
less than an amount that went into it (`Totals.amount_le_foldl`), and is zero only if there
are no levels.  The divisor then vanishes only with both sides, and it is at least as large
as the difference, rounded or not.

Main result: `Book.imbalance_of_run`.
-/
import MarketDepth.Proofs.Book.Figures
import MarketDepth.Proofs.Decimal.Sign

namespace MarketDepth

/-- The sum is rounded to a whole number above the largest decimal. -/
theorem Decimal.sumTooLarge_iff {a b : Decimal} :
    SumTooLarge a b ↔ greatest.mantissa < roundHalfEven (a.units + b.units) (tenPow 28) := by
  have hreach := le_roundHalfEven_iff (m := a.units + b.units) (k := limit) (tenPow_pos 28)
    (by decide)
  have hgreatest : greatest.mantissa = limit - 1 := rfl
  rw [SumTooLarge, ← hreach, hgreatest]
  omega

/-! ### Totals -/

namespace Totals

variable {levels : List Level} {t : Totals}

/-- A total does not fall with the levels that are added to it. -/
theorem amount_le_foldl (h : t.Nonneg) (hpos : ∀ l ∈ levels, l.Positive) :
    t.amount ≤ (levels.foldl
      (fun t l => ⟨t.amount.addSat l.amount, t.value.addSat l.value⟩) t).amount := by
  induction levels generalizing t with
  | nil => exact Int.le_refl _
  | cons l rest ih =>
    obtain ⟨hl, hrest⟩ := List.forall_mem_cons.mp hpos
    have hadd : t.amount ≤ t.amount.addSat l.amount := by
      refine Decimal.le_addSat (Decimal.nonneg_iff_toRat.mp h.amount) hl.amount_pos.le ?_
      exact le_add_of_nonneg_right hl.amount_pos.le
    exact Int.le_trans hadd (ih (h.add hl) hrest)

/-- Something rests on a side exactly if its total says so. -/
theorem amount_pos_iff (hpos : ∀ l ∈ levels, l.Positive) :
    .zero < (ofLevels levels).amount ↔ levels ≠ [] := by
  cases levels with
  | nil => simp [ofLevels, Decimal.lt_iff]
  | cons l rest =>
    obtain ⟨hl, hrest⟩ := List.forall_mem_cons.mp hpos
    have hstart : Nonneg ⟨.zero, .zero⟩ := ⟨Int.le_refl _, Int.le_refl _⟩
    have hfirst : l.amount ≤ Decimal.zero.addSat l.amount := by
      refine Decimal.le_addSat Decimal.toRat_zero.ge hl.amount_pos.le ?_
      rw [Decimal.toRat_zero, zero_add]
    have hrises := amount_le_foldl (hstart.add hl) hrest
    have htotal : .zero < (ofLevels (l :: rest)).amount :=
      Int.lt_of_lt_of_le hl.2 (Int.le_trans hfirst hrises)
    exact iff_of_true htotal (List.cons_ne_nil l rest)

end Totals

/-! ### The imbalance -/

namespace Book

variable {b : Book}

/-- There is nothing to compare on either side, or the amounts on both sides, each of them no
more than the largest decimal, add up to more than that once the sum is rounded. -/
def Incomparable (b : Book) : Prop :=
  b.bids.levels = [] ∧ b.asks.levels = [] ∨
    Decimal.greatest.mantissa <
      roundHalfEven (b.bids.totals.amount.units + b.asks.totals.amount.units) (tenPow 28)

theorem imbalance_of_sound (h : b.EachSide SoundOn) :
    b.Incomparable ∧ b.imbalance = none ∨
      ¬b.Incomparable ∧ ∃ v, b.imbalance = some v ∧ -1 ≤ v.toRat ∧ v.toRat ≤ 1 := by
  have hbidPos := (h .bid).2.positive
  have haskPos := (h .ask).2.positive
  have hbid : .zero ≤ b.bids.totals.amount := (Totals.ofLevels_nonneg hbidPos).amount
  have hask : .zero ≤ b.asks.totals.amount := (Totals.ofLevels_nonneg haskPos).amount
  have hbid' := Decimal.nonneg_iff_toRat.mp hbid
  have hask' := Decimal.nonneg_iff_toRat.mp hask
  have hlarge := Decimal.add?_eq_none_iff hbid hask
  rw [Decimal.sumTooLarge_iff] at hlarge
  rw [Incomparable, ← hlarge]
  unfold imbalance
  dsimp only
  cases hsum : b.bids.totals.amount.add? b.asks.totals.amount with
  | none =>
    left
    refine ⟨.inr rfl, ?_⟩
    cases b.bids.totals.amount.sub? b.asks.totals.amount <;> rfl
  | some sum =>
    by_cases hempty : b.bids.levels = [] ∧ b.asks.levels = []
    · left
      refine ⟨.inl hempty, ?_⟩
      have hbidZero : b.bids.totals.amount = .zero := by rw [Ladder.totals, hempty.1]; rfl
      have haskZero : b.asks.totals.amount = .zero := by rw [Ladder.totals, hempty.2]; rfl
      rw [hbidZero, haskZero] at hsum ⊢
      obtain rfl : Decimal.zero = sum := Option.some.inj hsum
      rfl
    · right
      refine ⟨by simp [hempty], ?_⟩
      -- one of the sides has a level, and the sum is no less than its total
      obtain ⟨hlebid, hleask⟩ := Decimal.le_add? hbid' hask' hsum
      have hpos : 0 < sum.toRat := by
        rcases not_and_or.mp hempty with hside | hside
        · have hamount := (Totals.amount_pos_iff hbidPos).mpr hside
          exact (Decimal.pos_iff_toRat.mp hamount).trans_le hlebid
        · have hamount := (Totals.amount_pos_iff haskPos).mpr hside
          exact (Decimal.pos_iff_toRat.mp hamount).trans_le hleask
      obtain ⟨difference, hdifference, v, hv, hbounds⟩ := Decimal.exists_lean hbid' hask' hsum hpos
      rw [hdifference]
      exact ⟨v, hv, hbounds⟩

/-- **The imbalance**, whatever was asked of a new book.  It is missing exactly where both
sides are empty or their amounts too large together.  Otherwise it lies between -1 and 1,
however many levels there are and however their amounts are scaled. -/
theorem imbalance_of_run (key : Key) (options : Options) (as : List Call) :
    let b := (empty key options).run as
    b.Incomparable ∧ b.imbalance = none ∨
      ¬b.Incomparable ∧ ∃ v, b.imbalance = some v ∧ -1 ≤ v.toRat ∧ v.toRat ≤ 1 :=
  imbalance_of_sound (run_sound key options as)

end Book

end MarketDepth
