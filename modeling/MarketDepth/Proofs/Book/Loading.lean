/-
MarketDepth/Proofs/Book/Loading.lean

What a book holds after a snapshot.

A verified book and one that is not treat the levels of a snapshot in quite different ways,
the one looking at each level and its neighbour, the other sorting all of them.  Yet the
check passes exactly those levels that sorting leaves as they are, apart from the numbers,
at which sorting does not look (`Levels.check_iff_arrange`).  What sorting leaves of any
other levels is the last positive one at each price: sorting is stable, so of the levels at
one price, which are neighbours then, the last one is still the last
(`Levels.arrange_lastPerPrice`).

Main results: `Book.loaded_of_verified` and `Book.loaded_of_unverified`.
-/
import MarketDepth.Proofs.Book.Intake
import MarketDepth.Proofs.Decimal.Values
import MarketDepth.Proofs.Nodes
import MarketDepth.Proofs.Stability

namespace MarketDepth

namespace Levels

variable {side : Side} {levels entries : List Level} {price : Decimal}

/-! ### Checking against sorting out -/

/-- Sorting out leaves alone what is in strict order and positive, and nothing else. -/
theorem arrange_eq_self_iff : arrange side levels = levels ↔ Sound side levels := by
  constructor
  · intro h
    rw [← h]
    exact arrange_sound side levels
  · exact arrange_of_sound

theorem check_iff_arrange :
    check side levels = .ok () ↔ arrange side levels = levels ∧ DistinctIds levels := by
  rw [check_eq_ok_iff, arrange_eq_self_iff]

/-! ### The last level at each price -/

/-- The last positive one of the levels at a price, by value. -/
def lastAt? (entries : List Level) (price : Decimal) : Option Level :=
  (entries.filter fun l => l.Positive ∧ l.price ≈ price).getLast?

/-- The levels are, in strict order, the last positive entry at each price and no other. -/
structure LastPerPrice (side : Side) (entries levels : List Level) : Prop where
  ordered : Ordered side levels
  last : ∀ price : Decimal, levels.filter (·.price ≈ price) = (lastAt? entries price).toList

theorem filter_cons_at {l : Level} (h : l.price ≈ price) :
    (l :: levels).filter (·.price ≈ price) = l :: levels.filter (·.price ≈ price) :=
  List.filter_cons_of_pos (decide_eq_true h)

theorem filter_cons_away {l : Level} (h : ¬l.price ≈ price) :
    (l :: levels).filter (·.price ≈ price) = levels.filter (·.price ≈ price) :=
  List.filter_cons_of_neg (by rwa [decide_eq_true_iff])

/-- Merging leaves the last one of the levels at each price, if they are in order. -/
theorem mergeSame_filter (h : levels.Pairwise fun a b => ¬side.Ahead b.price a.price)
    (price : Decimal) : (mergeSame levels).filter (·.price ≈ price) =
      (levels.filter (·.price ≈ price)).getLast?.toList := by
  fun_induction mergeSame levels with
  | case1 a b rest he ih =>
    rw [ih (List.pairwise_cons.mp h).2]
    by_cases hb : b.price ≈ price
    · -- `b` is at the price as well, so that `a` is not the last one
      rw [filter_cons_at (Setoid.trans he hb), filter_cons_at hb, List.getLast?_cons_cons]
    · have ha : ¬a.price ≈ price := fun ha => hb (Setoid.trans (Setoid.symm he) ha)
      rw [filter_cons_away ha]
  | case2 a b rest hne ih =>
    specialize ih (List.pairwise_cons.mp h).2
    by_cases ha : a.price ≈ price
    · -- `a` alone is at the price, all others are behind it
      have hbehind : (b :: rest).filter (·.price ≈ price) = [] := by
        rw [List.filter_eq_nil_iff]
        intro x hx hat
        have hahead := ahead_of_ne_next h hne x hx
        exact hahead.not_equiv (Setoid.trans ha (Setoid.symm (of_decide_eq_true hat)))
      rw [hbehind] at ih
      rw [filter_cons_at ha, filter_cons_at ha, ih, hbehind]
      rfl
    · rw [filter_cons_away ha, filter_cons_away ha]
      exact ih
  | case3 levels hshort =>
    cases levels with
    | nil => rfl
    | cons a rest =>
      cases rest with
      | nil =>
        by_cases ha : a.price ≈ price
        · rw [filter_cons_at ha]
          rfl
        · rw [filter_cons_away ha]
          rfl
      | cons b rest => exact (hshort a b rest rfl).elim

/-- Whatever levels come, sorting out leaves the last positive one at each price. -/
theorem arrange_lastPerPrice (side : Side) (entries : List Level) :
    LastPerPrice side entries (arrange side entries) where
  ordered := (arrange_sound side entries).ordered
  last price := by
    -- levels at one price are tied, and so they come out as they went in
    have hstable : ((entries.filter (·.Positive)).mergeSort
        fun a b => !side.Ahead b.price a.price).filter (·.price ≈ price) =
          (entries.filter (·.Positive)).filter (·.price ≈ price) := by
      refine filter_mergeSort (sorting_trans side) (sorting_total side) ?_ _
      intro a b ha hb
      have he : b.price ≈ a.price :=
        Setoid.trans (of_decide_eq_true hb) (Setoid.symm (of_decide_eq_true ha))
      rw [Bool.not_eq_true', decide_eq_false_iff_not]
      exact fun hahead => hahead.not_equiv he
    rw [arrange, mergeSame_filter (mergeSort_pairwise side _), hstable, List.filter_filter, lastAt?]
    simp only [Bool.decide_and, Bool.and_comm]

end Levels

/-! ### Loading -/

namespace Book

open Levels (LastPerPrice)

variable {b : Book} {bids asks : List Level}

/-- What rests in a book after a snapshot is what it took of it. -/
theorem intakeSides_of_restore {id : Int} {pool : Pool} {now : Instant} {r : Book × Pool}
    (h : b.restore bids asks id pool now = .ok r) :
    b.intakeSides bids asks = .ok (r.1.bids.levels, r.1.asks.levels) := by
  cases hsides : b.intakeSides bids asks with
  | error fault =>
    unfold restore at h
    rw [hsides] at h
    cases h
  | ok sides =>
    obtain ⟨pool', hr⟩ := restore_of_intakeSides hsides id pool now
    rw [h] at hr
    obtain rfl := Except.ok.inj hr
    rfl

/-- **Verification changes nothing**: the check passes exactly those levels that sorting out
leaves as they are and that bear no number twice.  So a snapshot that a verified book takes
makes the same ladders in a book that is not verified, whatever the two held before. -/
theorem loaded_of_verified :
    (∀ side levels, Levels.check side levels = .ok () ↔
      Levels.arrange side levels = levels ∧ Levels.DistinctIds levels) ∧
    ∀ (b b' : Book) (bids asks : List Level) (id : Int) (pool pool' : Pool) (now now' : Instant)
      (r : Book × Pool), b.options.verify = true → b'.options.verify = false →
      b.restore bids asks id pool now = .ok r →
      ∃ r', b'.restore bids asks id pool' now' = .ok r' ∧
        ∀ side, (r'.1.ladder side).levels = (r.1.ladder side).levels := by
  refine ⟨fun side levels => Levels.check_iff_arrange, ?_⟩
  intro b b' bids asks id pool pool' now now' r hverify hverify' h
  obtain ⟨hbids, hasks⟩ := intakeSides_ok (intakeSides_of_restore h)
  obtain ⟨hbids, hbidsChecked⟩ := eq_of_checked hverify hbids
  obtain ⟨hasks, hasksChecked⟩ := eq_of_checked hverify hasks
  obtain ⟨hbidsSame, -⟩ := Levels.check_iff_arrange.mp hbidsChecked
  obtain ⟨hasksSame, -⟩ := Levels.check_iff_arrange.mp hasksChecked
  -- the book that is not verified sorts out levels which stay as they are
  have hsides : b'.intakeSides bids asks = .ok (bids, asks) := by
    rw [intakeSides_of_unverified hverify', hbidsSame, hasksSame]
  obtain ⟨freed, hr'⟩ := restore_of_intakeSides hsides id pool' now'
  refine ⟨_, hr', ?_⟩
  intro side
  cases side with
  | bid => exact hbids.symm
  | ask => exact hasks.symm

/-- **A book that is not verified takes every snapshot**: afterwards it can be read, and each
of its sides holds, in strict order, the last positive level at each price that the snapshot
brings for the side, and no other. -/
theorem loaded_of_unverified (hverify : b.options.verify = false) (bids asks : List Level)
    (id : Int) (pool : Pool) (now : Instant) :
    ∃ b' pool', b.restore bids asks id pool now = .ok (b', pool') ∧
      b'.lastId = id ∧ b'.readable = .ok () ∧
      LastPerPrice .bid bids b'.bids.levels ∧ LastPerPrice .ask asks b'.asks.levels := by
  obtain ⟨pool', hr⟩ := restore_of_intakeSides (intakeSides_of_unverified hverify) id pool now
  exact ⟨_, pool', hr, rfl, rfl, Levels.arrange_lastPerPrice .bid bids,
    Levels.arrange_lastPerPrice .ask asks⟩

/-! A book that holds one bid and waits for a snapshot, and two snapshots: one that is in
order, with a number on either side, and bids that are not, where the last one at 100 is
written in another way than the first and comes before one with no amount. -/

def waitingBook (verify : Bool) : Book where
  key := ⟨"binance", ⟨"BTC", "USDT"⟩, .spot⟩
  options := { verify }
  bids := ⟨.bid, [⟨.tenths 980, .two, some 7⟩]⟩
  asks := ⟨.ask, []⟩
  lastId := 1
  restored := true
  invalidation := some "checksum mismatch"

def orderedBids : List Level := [⟨.hundred, .two, some 8⟩, ⟨.tenths 995, .two, none⟩]

def orderedAsks : List Level := [⟨.tenths 1005, .hundred, some 8⟩, ⟨.tenths 1010, .two, none⟩]

theorem loaded_of_orderedSnapshot :
    (waitingBook true).options.verify = true ∧ (waitingBook false).options.verify = false ∧
      ∃ r r', (waitingBook true).restore orderedBids orderedAsks 2 (.empty 0) 0 = .ok r ∧
        (waitingBook false).restore orderedBids orderedAsks 2 (.empty 0) 0 = .ok r' ∧
        r.1.bids.levels = orderedBids ∧
        ∀ side, (r'.1.ladder side).levels = (r.1.ladder side).levels := by
  obtain ⟨r, hr, hbids⟩ : ∃ r,
      (waitingBook true).restore orderedBids orderedAsks 2 (.empty 0) 0 = .ok r ∧
        r.1.bids.levels = orderedBids := ⟨_, rfl, rfl⟩
  obtain ⟨r', hr', hladders⟩ := loaded_of_verified.2 (waitingBook true) (waitingBook false)
    orderedBids orderedAsks 2 (.empty 0) (.empty 0) 0 0 r rfl rfl hr
  exact ⟨rfl, rfl, r, r', hr, hr', hbids, hladders⟩

def mixedBids : List Level :=
  [⟨.tenths 1000, .two, some 3⟩, ⟨.tenths 1005, .two, none⟩, ⟨.hundred, .hundred, some 4⟩,
    ⟨.tenths 1000, .zero, none⟩, ⟨Decimal.two.neg, .two, none⟩]

theorem loaded_of_mixedSnapshot :
    (waitingBook false).options.verify = false ∧
      ∃ b' pool', (waitingBook false).restore mixedBids [] 2 (.empty 0) 0 = .ok (b', pool') ∧
        b'.lastId = 2 ∧ b'.readable = .ok () ∧
        LastPerPrice .bid mixedBids b'.bids.levels ∧ LastPerPrice .ask [] b'.asks.levels ∧
        b'.bids.levels.filter (·.price ≈ Decimal.tenths 980) = [] ∧
        b'.bids.levels.filter (·.price ≈ Decimal.hundred) = [⟨.hundred, .hundred, some 4⟩] := by
  obtain ⟨b', pool', hr, hid, hreadable, hbids, hasks⟩ :=
    loaded_of_unverified (b := waitingBook false) rfl mixedBids [] 2 (.empty 0) 0
  exact ⟨rfl, b', pool', hr, hid, hreadable, hbids, hasks, hbids.last _, hbids.last _⟩

end Book

end MarketDepth
