/-
MarketDepth/Proofs/Http/Figures.lean

The two figures on top of a book, and those that the service shows.

The middle of the best prices and the distance between them are computed twice: by
the book, for which a sum out of range only means that there is no middle, and by the
service from a copy of the book, where it stops the answer.  The distance is always in
range; the sum alone may be too large (`View.TopTooLarge`), and then the two part.

Main result: `Http.figures_of_run`.
-/
import MarketDepth.Http.Service
import MarketDepth.Proofs.Book.Figures
import MarketDepth.Proofs.Market.Channels

namespace MarketDepth

/-! ### The figures that are shown -/

namespace Http

variable {b : Book} {s : Service} {exchange pair segment : String} {key : Key} {v : View}

/-- The service shows the figures of the book, unless it gets stuck on their sum. -/
theorem topFigures_view (h : b.EachSide Book.SoundOn) {spread : Option Decimal}
    (hspread : b.spread = .ok spread) :
    (¬b.view.TopTooLarge → topFigures b.view = .ok (b.midPrice, spread)) ∧
      (b.view.TopTooLarge → topFigures b.view = .error .addition) := by
  have hviewBid : b.view.bestBid = b.bestBid := rfl
  have hviewAsk : b.view.bestAsk = b.bestAsk := rfl
  unfold Book.spread at hspread
  unfold topFigures Book.midPrice View.TopTooLarge
  rw [hviewBid, hviewAsk]
  cases hbid : b.bestBid with
  | none =>
    rw [hbid] at hspread
    obtain rfl : none = spread := Except.ok.inj hspread
    simp [pure, Except.pure]
  | some bid =>
    cases hask : b.bestAsk with
    | none =>
      rw [hbid, hask] at hspread
      obtain rfl : none = spread := Except.ok.inj hspread
      simp [pure, Except.pure]
    | some ask =>
      rw [hbid, hask] at hspread
      have hbid := Book.bestBid_nonneg h hbid
      have hask := Book.bestAsk_nonneg h hask
      cases hadd : bid.add? ask with
      | none =>
        have hlarge := (Decimal.add?_eq_none_iff hbid hask).mp hadd
        simp [hlarge, Decimal.add, hadd, bind, Except.bind]
      | some sum =>
        have hfits := Decimal.not_tooLarge_of_add? hbid hask hadd
        -- a sum that is in range can always be halved
        obtain ⟨mid, hmid⟩ := Option.isSome_iff_exists.mp
          (sum.div?_isSome (b := .two) (by decide) rfl)
        have hhalf : sum.div .two = .ok mid := Decimal.div_eq_ok_iff.mpr hmid
        cases hsub : ask.sub bid with
        | error e => simp [hsub] at hspread
        | ok d =>
          simp only [hsub] at hspread
          obtain rfl : some d = spread := Except.ok.inj hspread
          simp [hfits, Decimal.add, hadd, hmid, hhalf, hsub, bind, Except.bind, pure, Except.pure]

/-- The page of a book that can be read shows its copy and the two figures. -/
theorem depth_eq (hkey : Key.ofWords exchange pair segment = .ok key)
    (hview : s.market.view key = .ok v) :
    depth s exchange pair segment =
      (topFigures v).map fun figures => ok (depthJson v figures.1 figures.2) := by
  have hread : (Key.ofWords exchange pair segment).bind s.market.view = .ok v := by
    rw [hkey]
    exact hview
  unfold depth
  rw [hread]
  rfl

/-- **What the service shows of a book**, for every book of a market that can be read,
after any calls.  If the best prices are not too large, both figures are shown, and
they are those of the book: the middle price is missing if and only if a side is empty.
If they are too large, the book has no middle price either, but the service does not
say so; it fails on the sum. -/
theorem figures_of_run (defaults : Options) (limit : Nat) (pool : Pool)
    (calls : List Market.Call)
    (hmarket : s.market = (Market.empty defaults limit pool).run calls)
    (hview : s.market.view key = .ok v) :
    ∃ c spread, s.market.find? key = some c ∧ v = c.book.view ∧ c.book.spread = .ok spread ∧
      (¬v.TopTooLarge →
        (c.book.midPrice = none ↔ v.bids = [] ∨ v.asks = []) ∧
        topFigures v = .ok (c.book.midPrice, spread) ∧
        ∀ exchange pair segment, Key.ofWords exchange pair segment = .ok key →
          depth s exchange pair segment = .ok (ok (depthJson v c.book.midPrice spread))) ∧
      (v.TopTooLarge →
        c.book.midPrice = none ∧
        topFigures v = .error .addition ∧
        ∀ exchange pair segment, Key.ofWords exchange pair segment = .ok key →
          depth s exchange pair segment = .error .addition) := by
  obtain ⟨c, hfind, hread⟩ : ∃ c, s.market.find? key = some c ∧ c.view = .ok v := by
    unfold Market.view at hview
    cases hfind : s.market.find? key with
    | none => simp [hfind] at hview
    | some c =>
      rw [hfind] at hview
      exact ⟨c, rfl, hview⟩
  have hsound : c.book.EachSide Book.SoundOn := by
    rw [hmarket] at hfind
    exact Market.sound_of_run defaults limit pool calls hfind
  obtain ⟨-, rfl⟩ := Channel.view_eq_ok_iff.mp hread
  obtain ⟨spread, hspread⟩ := Book.exists_spread hsound
  obtain ⟨hfits, hlarge⟩ := topFigures_view hsound hspread
  have hmid := Book.midPrice_isSome_iff hsound
  refine ⟨c, spread, hfind, rfl, hspread, ?_, ?_⟩
  · intro h
    refine ⟨?_, hfits h, ?_⟩
    · have hbid : c.book.bestBid.isSome ↔ c.book.bids.levels ≠ [] := by
        simp [Book.bestBid, Ladder.best?]
      have hask : c.book.bestAsk.isSome ↔ c.book.asks.levels ≠ [] := by
        simp [Book.bestAsk, Ladder.best?]
      rw [← Option.not_isSome_iff_eq_none, hmid, hbid, hask]
      show _ ↔ c.book.bids.levels = [] ∨ c.book.asks.levels = []
      tauto
    · intro exchange pair segment hkey
      rw [depth_eq hkey hview, hfits h]
      rfl
  · intro h
    refine ⟨?_, hlarge h, ?_⟩
    · rw [← Option.not_isSome_iff_eq_none, hmid]
      rintro ⟨-, -, hnot⟩
      exact hnot h
    · intro exchange pair segment hkey
      rw [depth_eq hkey hview, hlarge h]
      rfl

/-! A book with one bid and one ask, of two each. -/

open Channel (exampleKey)

theorem exampleKey_ofWords : Key.ofWords "binance" "BTC-USDT" "spot" = .ok exampleKey := by
  decide +kernel

def quotedLevels (price : Decimal) : List Level := [⟨price, .two, none⟩]

def quotedService (bid ask : Decimal) : Service where
  market := (Market.empty {} 3 (.empty 0)).run
    [⟨.receive ⟨exampleKey, .snapshot ⟨1, quotedLevels bid, quotedLevels ask, none⟩⟩, fun _ => 0⟩]
  ready := true
  recorder := true

def quotedView (bid ask : Decimal) : View :=
  ⟨exampleKey, quotedLevels bid, quotedLevels ask, 1, true, false⟩

theorem figures_of_quotedService :
    let s := quotedService (.ofNat 100) (.ofNat 101)
    let v := quotedView (.ofNat 100) (.ofNat 101)
    s.market.view exampleKey = .ok v ∧
      ∃ c spread, s.market.find? exampleKey = some c ∧ c.book.spread = .ok spread ∧
        c.book.midPrice.isSome ∧
        depth s "binance" "BTC-USDT" "spot" = .ok (ok (depthJson v c.book.midPrice spread)) := by
  intro s v
  have hview : s.market.view exampleKey = .ok v := by decide +kernel
  obtain ⟨c, spread, hfind, -, hspread, hfits, -⟩ := figures_of_run {} 3 (.empty 0)
    [⟨.receive ⟨exampleKey, .snapshot ⟨1, v.bids, v.asks, none⟩⟩, fun _ => 0⟩] rfl hview
  have hnot : ¬v.TopTooLarge := by
    rintro ⟨bid, hbid, ask, hask, hlarge⟩
    obtain rfl := Option.some.inj hbid
    obtain rfl := Option.some.inj hask
    revert hlarge
    decide +kernel
  obtain ⟨hmid, -, hdepth⟩ := hfits hnot
  refine ⟨hview, c, spread, hfind, hspread, ?_, hdepth _ _ _ exampleKey_ofWords⟩
  rw [← Option.ne_none_iff_isSome, ne_eq, hmid]
  decide

/-- A bid and an ask at prices which a decimal can hold, while it cannot hold their sum. -/
theorem depth_error_of_highQuotes :
    let bid := Decimal.ofNat 50000000000000000000000000000
    let ask := Decimal.ofNat 60000000000000000000000000000
    let s := quotedService bid ask
    s.market.view exampleKey = .ok (quotedView bid ask) ∧
      (s.market.channelFor exampleKey).book.midPrice = none ∧
      (s.market.channelFor exampleKey).book.spread =
        .ok (some (.ofNat 10000000000000000000000000000)) ∧
      depth s "binance" "BTC-USDT" "spot" = .error .addition := by
  intro bid ask s
  have hview : s.market.view exampleKey = .ok (quotedView bid ask) := by decide +kernel
  have hfigures : topFigures (quotedView bid ask) = .error .addition := by decide +kernel
  refine ⟨hview, by decide +kernel, by decide +kernel, ?_⟩
  rw [depth_eq exampleKey_ofWords hview, hfigures]
  rfl

end Http

end MarketDepth
