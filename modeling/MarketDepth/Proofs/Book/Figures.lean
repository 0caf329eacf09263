/-
MarketDepth/Proofs/Book/Figures.lean

The figures that are read off a book.

Some of them are computed with sums and differences that must not be out of range.
Prices and amounts that rest in a book are positive, whatever was asked of it before, and
so a difference of two of them is always in range.  A sum may be too large; but sums are
computed only where this means that there is no figure, as for the middle price, or that
the figure is the largest decimal, as for the totals.

Main result: `Book.legible_of_run`.
-/
import MarketDepth.Book.Figures
import MarketDepth.Book.View
import MarketDepth.Proofs.Book.Order
import MarketDepth.Proofs.Decimal.Quotient
import MarketDepth.Proofs.Simulation.Outcome

namespace MarketDepth

/-! ### The top of a book -/

/-- The best prices add up to more than a decimal can hold, even once the sum is
rounded. -/
def View.TopTooLarge (v : View) : Prop :=
  ∃ bid ∈ v.bestBid, ∃ ask ∈ v.bestAsk, Decimal.SumTooLarge bid ask

namespace Book

variable {b : Book} {bid ask : Decimal}

theorem best_nonneg {side : Side} {l : Ladder} {price : Decimal} (h : SoundOn side l)
    (hbest : l.best?.map (·.price) = some price) : .zero ≤ price := by
  obtain ⟨level, hlevel, rfl⟩ := Option.map_eq_some_iff.mp hbest
  exact Int.le_of_lt (h.2.positive level (List.mem_of_head? hlevel)).1

theorem bestBid_nonneg (h : b.EachSide SoundOn) (hbid : b.bestBid = some bid) : .zero ≤ bid :=
  best_nonneg (h .bid) hbid

theorem bestAsk_nonneg (h : b.EachSide SoundOn) (hask : b.bestAsk = some ask) : .zero ≤ ask :=
  best_nonneg (h .ask) hask

/-- The distance between the best prices is always in range. -/
theorem exists_spread (h : b.EachSide SoundOn) : ∃ spread, b.spread = .ok spread := by
  unfold spread
  split
  · next bid ask hbid hask =>
    have hsub := Decimal.sub?_isSome (bestAsk_nonneg h hask) (bestBid_nonneg h hbid)
    obtain ⟨d, hd⟩ := Option.isSome_iff_exists.mp hsub
    exact ⟨some d, by rw [Decimal.sub, hd]; rfl⟩
  · exact ⟨none, rfl⟩

/-- A book has a middle price if both sides have levels and their best prices are not
too large. -/
theorem midPrice_isSome_iff (h : b.EachSide SoundOn) :
    b.midPrice.isSome ↔ b.bestBid.isSome ∧ b.bestAsk.isSome ∧ ¬b.view.TopTooLarge := by
  have hviewBid : b.view.bestBid = b.bestBid := rfl
  have hviewAsk : b.view.bestAsk = b.bestAsk := rfl
  unfold midPrice View.TopTooLarge
  rw [hviewBid, hviewAsk]
  cases hbid : b.bestBid with
  | none => simp
  | some bid =>
    cases hask : b.bestAsk with
    | none => simp
    | some ask =>
      have hbid := bestBid_nonneg h hbid
      have hask := bestAsk_nonneg h hask
      cases hadd : bid.add? ask with
      | none =>
        have hlarge := (Decimal.add?_eq_none_iff hbid hask).mp hadd
        simp [hadd, hlarge]
      | some sum =>
        have hfits := Decimal.not_tooLarge_of_add? hbid hask hadd
        have hhalf : (sum.div? .two).isSome := sum.div?_isSome (by decide) rfl
        simp [hadd, hfits, hhalf]

/-- The distance in percent is computed from the distance alone. -/
theorem exists_spreadPercent (h : b.EachSide SoundOn) :
    ∃ percent, b.spreadPercent = .ok percent := by
  obtain ⟨spread, hspread⟩ := exists_spread h
  unfold spreadPercent
  rw [hspread]
  split
  · exact ⟨none, rfl⟩
  · exact ⟨_, rfl⟩

end Book

/-! ### Totals -/

namespace Totals

variable {levels : List Level} {l : Level} {t : Totals}

/-- Neither total is negative. -/
structure Nonneg (t : Totals) : Prop where
  amount : .zero ≤ t.amount
  value : .zero ≤ t.value

/-- One more level. -/
theorem Nonneg.add (h : t.Nonneg) (hl : l.Positive) :
    Nonneg ⟨t.amount.addSat l.amount, t.value.addSat l.value⟩ where
  amount := Decimal.addSat_nonneg (Decimal.nonneg_iff_toRat.mp h.amount) hl.amount_pos.le
  value := by
    have hvalue : 0 ≤ l.value.toRat := Decimal.mulSat_nonneg hl.price_pos.le hl.amount_pos.le
    exact Decimal.addSat_nonneg (Decimal.nonneg_iff_toRat.mp h.value) hvalue

theorem foldl_nonneg (h : t.Nonneg) (hpos : ∀ l ∈ levels, l.Positive) :
    (levels.foldl (fun t l => ⟨t.amount.addSat l.amount, t.value.addSat l.value⟩) t).Nonneg := by
  induction levels generalizing t with
  | nil => exact h
  | cons l rest ih =>
    obtain ⟨hl, hrest⟩ := List.forall_mem_cons.mp hpos
    exact ih (h.add hl) hrest

theorem ofLevels_nonneg (hpos : ∀ l ∈ levels, l.Positive) : (ofLevels levels).Nonneg :=
  foldl_nonneg ⟨Int.le_refl _, Int.le_refl _⟩ hpos

end Totals

/-! ### Reading a book -/

namespace Book

open Simulation (Answers)

variable {b : Book}

/-- Whatever is read off the book, no sum or difference on the way is out of range unless
this is what the answer says. -/
structure Legible (b : Book) : Prop where
  /-- An order is refused, or it succeeds, or its proceeds are too large. -/
  simulate : ∀ amount buy,
    Answers (b.ladder (.consumedBy buy)).levels amount (b.simulate amount buy)
  /-- A walk uses up no more levels than there are. -/
  exhausted : ∀ amount buy w, (Simulation.Walk.start amount).run
    (b.ladder (.consumedBy buy)).levels = .ok w → w.exhausted ≤ (b.ladder (.consumedBy buy)).size
  spread : ∃ spread, b.spread = .ok spread
  spreadPercent : ∃ percent, b.spreadPercent = .ok percent
  /-- There is no middle price exactly where a best price is missing or their sum is out of
  range. -/
  midPrice : b.midPrice.isSome ↔ b.bestBid.isSome ∧ b.bestAsk.isSome ∧ ¬b.view.TopTooLarge
  /-- The amounts on the two sides always have a difference. -/
  imbalance : (b.bids.totals.amount.sub? b.asks.totals.amount).isSome
  totals : ∀ side, (b.ladder side).totals.Nonneg

theorem legible_of_sound (h : b.EachSide SoundOn) : b.Legible where
  simulate amount buy :=
    Simulation.answers_of_positive (h (.consumedBy buy)).2.positive amount
  exhausted amount buy w hrun := by
    obtain ⟨-, hused⟩ := (Simulation.Walk.run_eq_ok_iff.mp hrun).exhausted
    rwa [show (Simulation.Walk.start amount).exhausted = 0 from rfl, Nat.zero_add] at hused
  spread := exists_spread h
  spreadPercent := exists_spreadPercent h
  midPrice := midPrice_isSome_iff h
  imbalance := by
    have hbids : b.bids.totals.Nonneg := Totals.ofLevels_nonneg (h .bid).2.positive
    have hasks : b.asks.totals.Nonneg := Totals.ofLevels_nonneg (h .ask).2.positive
    exact Decimal.sub?_isSome hbids.amount hasks.amount
  totals side := Totals.ofLevels_nonneg (h side).2.positive

/-- **Reading never fails**, whatever was asked of a new book: the simulation of an order
refuses an amount that is not positive, for any other it succeeds or reports that the
proceeds are too large, and it finds too little exactly where the side is empty.  Neither
there nor in any other figure is a difference out of range, and no more levels are used up
than there are. -/
theorem legible_of_run (key : Key) (options : Options) (as : List Call) :
    ((empty key options).run as).Legible :=
  legible_of_sound (run_sound key options as)

end Book

end MarketDepth
