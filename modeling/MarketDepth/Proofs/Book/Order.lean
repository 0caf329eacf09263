/-
MarketDepth/Proofs/Book/Order.lean

Books in order, with positive levels.

Both sides of a book are sound after every run of calls: a snapshot brings in sound
sides, whether the book is verified or not, and edits keep them so.  This holds of
calls that fail too, and of a message that stops half-way.

Main results: `Book.ordered_of_run`; and `Book.place_of_run`, that a search which
relies on the order of a book is right in every book that a run has made.
-/
import MarketDepth.Proofs.Book.Calls
import MarketDepth.Proofs.Book.Intake

namespace MarketDepth.Book

variable {b : Book}

/-- The ladder is one of that side, in strict order and positive. -/
def SoundOn (side : Side) (l : Ladder) : Prop := l.side = side ∧ l.Sound

theorem SoundOn.ordered {side : Side} {l : Ladder} (h : SoundOn side l) :
    Levels.Ordered side l.levels := by
  obtain ⟨rfl, hsound⟩ := h
  exact Levels.Sound.ordered hsound

theorem soundOn_kept (addressing : Addressing) : KeptByEdits addressing SoundOn := by
  rintro side l l' action hvalid ⟨hside, hsound⟩ hedit
  exact ⟨hedit.side.trans hside, hedit.sound hsound hvalid⟩

theorem perform_sound (b : Book) (a : Call) (h : b.EachSide SoundOn) :
    (b.perform a).EachSide SoundOn := by
  refine perform_eachSide (soundOn_kept _) ?_ h
  intro bids asks id _ bids' asks' hsides
  obtain ⟨hbids, hasks⟩ := intakeSides_ok hsides
  have hbid : b.bids.side = .bid := (h .bid).1
  have hask : b.asks.side = .ask := (h .ask).1
  refine ⟨⟨hbid, ?_⟩, hask, ?_⟩
  · show Levels.Sound b.bids.side bids'
    rw [hbid]
    exact intake_sound hbids
  · show Levels.Sound b.asks.side asks'
    rw [hask]
    exact intake_sound hasks

theorem run_sound (key : Key) (options : Options) (as : List Call) :
    ((empty key options).run as).EachSide SoundOn := by
  refine run_invariant ?_ perform_sound as
  exact eachSide_iff.mpr ⟨⟨rfl, .nil .bid⟩, rfl, .nil .ask⟩

/-- **Books stay in order**, whatever is asked of a new one: the prices of the bids
descend strictly and those of the asks ascend strictly, by value, and every level
that rests has a positive price and a positive amount. -/
theorem ordered_of_run (key : Key) (options : Options) (as : List Call) :
    let b := (empty key options).run as
    b.bids.levels.Pairwise (fun x y => y.price < x.price) ∧
      b.asks.levels.Pairwise (fun x y => x.price < y.price) ∧
      ∀ l ∈ b.bids.levels ++ b.asks.levels, .zero < l.price ∧ .zero < l.amount := by
  intro b
  obtain ⟨hbid, hbids⟩ := run_sound key options as .bid
  obtain ⟨hask, hasks⟩ := run_sound key options as .ask
  have hdescending := hbids.ordered
  have hascending := hasks.ordered
  rw [hbid] at hdescending
  rw [hask] at hascending
  refine ⟨hdescending, hascending, ?_⟩
  intro l hl
  rcases List.mem_append.mp hl with hl | hl
  · exact hbids.positive l hl
  · exact hasks.positive l hl

/-- Whoever searches a side of a book for a price finds the place that an edit at
this price has, if he finds a level at the price, or else a gap between the levels
ahead of it and those behind it. -/
theorem place_of_run (key : Key) (options : Options) (as : List Call) (side : Side)
    (price : Decimal) (p : Place) :
    let l := ((empty key options).run as).ladder side
    p.levels = l.levels → (∀ x ∈ p.resting, x.price ≈ price) →
      (p.resting = none → (∀ x ∈ p.ahead, side.Ahead x.price price) ∧
        ∀ x ∈ p.behind, side.Ahead price x.price) →
      p = l.place price := by
  intro l hlevels hresting hgap
  obtain ⟨hside, hsound⟩ := run_sound key options as side
  refine Ladder.place_unique hsound.ordered hlevels hresting ?_
  rw [hside]
  exact hgap

end MarketDepth.Book
