/-
MarketDepth/Proofs/Book/Quotes.lean

A side of a book as a finite map.

Where a venue names its levels by price, a side is a map from prices, taken by value,
to what rests there: an amount, and a number where there is one.  `Quotes side` is
such a map, with its entries in the order of the side, and `Quotes.perform` is what an
action does to it: an amount is set or taken away at a price, and the best-placed entry
with a number is looked for among the entries.  Nothing is said here of places, of
levels that are written over, or of the scale at which a price rests.

A sound ladder lists its map, and every edit of it lists the map after the action
(`Ladder.Edit.quotes`).  What is looked up in the map under a price is what the edit
finds at its place, and a deletion by number is one by the price of the level found.

Main result: `Book.quotes_of_apply`, for all the changes of a message.
-/
import MarketDepth.Proofs.Book.Deletions
import MarketDepth.Proofs.Book.Order
import MarketDepth.Proofs.Decimal.Values

namespace MarketDepth

/-! ### Maps of prices -/

/-- What rests at a price. -/
structure Quote where
  amount : Decimal
  id : Option Int
deriving DecidableEq

namespace Side

/-- Which of two prices stands nearer the top, both as whole numbers of units. -/
def order : Side → Int → Int → Ordering
  | bid, p, q => compare q p
  | ask, p, q => compare p q

theorem order_eq_lt_iff {s : Side} {a b : Decimal} :
    s.order a.units b.units = .lt ↔ s.Ahead a b := by
  cases s <;> exact Int.compare_eq_lt

theorem order_eq_eq_iff {s : Side} {p q : Int} : s.order p q = .eq ↔ p = q := by
  cases s with
  | bid => exact Int.compare_eq_eq.trans eq_comm
  | ask => exact Int.compare_eq_eq

instance (s : Side) : Std.TransCmp s.order := by
  cases s with
  | bid => exact inferInstanceAs (Std.TransCmp fun p q : Int => compare q p)
  | ask => exact inferInstanceAs (Std.TransCmp fun p q : Int => compare p q)

instance (s : Side) : Std.LawfulEqCmp s.order := ⟨order_eq_eq_iff.mp⟩

end Side

/-- A side as a map from prices, in units, to what rests there. -/
abbrev Quotes (side : Side) := Std.ExtTreeMap Int Quote side.order

/-- A price with what rests there. -/
abbrev Quotes.Entry := Int × Quote

namespace Level

def quote (l : Level) : Quote := ⟨l.amount, l.id⟩

/-- What a level enters into the map of its side. -/
def entry (l : Level) : Quotes.Entry := (l.price.units, l.quote)

end Level

namespace Quotes

variable {side : Side}

/-- The map of a side with these levels. -/
def ofLevels (side : Side) (levels : List Level) : Quotes side :=
  .ofList (levels.map Level.entry) side.order

/-- Sets the amount at a price.  The number that rests there stays, unless the level
brings one; an amount of zero takes the entry away. -/
def set (m : Quotes side) (level : Level) : Quotes side :=
  if level.amount.IsZero then m.erase level.price.units
  else m.insert level.price.units ⟨level.amount, level.id.or (m[level.price.units]?.bind (·.id))⟩

/-- The best-placed entry with a number. -/
def numbered? (m : Quotes side) (id : Int) : Option Entry :=
  m.toList.find? fun e => e.2.id = some id

/-- What an action does. -/
def perform (m : Quotes side) : Action → Quotes side
  | .insert level => m.set level
  | .amend level => m.set level
  | .delete (.price price) => m.erase price.units
  | .delete (.id id) =>
    match m.numbered? id with
    | some e => m.erase e.1
    | none => m

/-- What the changes to its side do, one after the other. -/
def performAll (m : Quotes side) (changes : List Change) : Quotes side :=
  changes.foldl (fun m c => if c.side = side then m.perform c.action else m) m

theorem perform_of_sets {action : Action} {level : Level} (h : action.Sets level)
    (m : Quotes side) : m.perform action = m.set level := by
  rcases h with rfl | rfl <;> rfl

/-! ### Levels that list a map -/

variable {levels : List Level} {m : Quotes side} {price : Decimal}

theorem entries_ordered (h : Levels.Ordered side levels) :
    (levels.map Level.entry).Pairwise fun e e' => side.order e.1 e'.1 = .lt := by
  rw [List.pairwise_map]
  exact h.imp Side.order_eq_lt_iff.mpr

/-- Levels in order list a map if they have the same entries. -/
theorem listed_iff (h : Levels.Ordered side levels) :
    levels.map Level.entry = m.toList ↔
      ∀ p q, (p, q) ∈ levels.map Level.entry ↔ m[p]? = some q := by
  have hmem : ∀ p q, (p, q) ∈ m.toList ↔ m[p]? = some q :=
    fun p q => Std.ExtTreeMap.mem_toList_iff_getElem?_eq_some
  constructor
  · intro heq p q
    rw [heq]
    exact hmem p q
  · intro hsame
    have hlevels := entries_ordered h
    have hmap : m.toList.Pairwise fun e e' => side.order e.1 e'.1 = .lt :=
      Std.ExtTreeMap.ordered_keys_toList
    have hne : ∀ {e e' : Entry}, side.order e.1 e'.1 = .lt → e ≠ e' := by
      rintro e e' hlt rfl
      rw [Side.order_eq_eq_iff.mpr rfl] at hlt
      cases hlt
    have hperm : (levels.map Level.entry).Perm m.toList := by
      refine (List.perm_ext_iff_of_nodup (hlevels.imp hne) (hmap.imp hne)).mpr ?_
      rintro ⟨p, q⟩
      rw [hsame, hmem]
    -- two orders of the same entries, both of them strict
    refine hperm.eq_of_pairwise ?_ hlevels hmap
    intro e e' _ _ hlt hgt
    have hswap : side.order e.1 e'.1 = (side.order e'.1 e.1).swap := Std.OrientedCmp.eq_swap
    rw [hswap, hgt] at hlt
    cases hlt

/-- Levels in order list their own map. -/
theorem ofLevels_listed (h : Levels.Ordered side levels) :
    levels.map Level.entry = (ofLevels side levels).toList := by
  have hdistinct : (levels.map Level.entry).Pairwise fun e e' => ¬side.order e.1 e'.1 = .eq :=
    (entries_ordered h).imp fun hlt heq => by cases hlt.symm.trans heq
  have hfound : ∀ p q, (p, q) ∈ levels.map Level.entry → (ofLevels side levels)[p]? = some q :=
    fun p q => Std.ExtTreeMap.getElem?_ofList_of_mem Std.ReflCmp.compare_self hdistinct
  rw [listed_iff h]
  intro p q
  constructor
  · exact hfound p q
  · intro hq
    by_cases hkey : p ∈ (levels.map Level.entry).map Prod.fst
    · obtain ⟨⟨p, q'⟩, hmem, rfl⟩ := List.mem_map.mp hkey
      obtain rfl : q = q' := Option.some.inj (hq.symm.trans (hfound p q' hmem))
      exact hmem
    · have habsent : (ofLevels side levels)[p]? = none :=
        Std.ExtTreeMap.getElem?_ofList_of_contains_eq_false (by simpa using hkey)
      cases habsent.symm.trans hq

/-! ### What is looked up -/

/-- Under a price the map has what rests at its place. -/
theorem getElem?_eq_restingAt? (h : Levels.Ordered side levels)
    (hm : levels.map Level.entry = m.toList) (price : Decimal) :
    m[price.units]? = (Levels.restingAt? levels price).map Level.quote := by
  have hmem := (listed_iff h).mp hm
  cases hx : Levels.restingAt? levels price with
  | none =>
    rw [Levels.restingAt?, List.find?_eq_none] at hx
    cases hq : m[price.units]? with
    | none => rfl
    | some q =>
      obtain ⟨x, hxmem, hentry⟩ := List.mem_map.mp ((hmem _ q).mpr hq)
      have hprice : x.price ≈ price := congrArg Prod.fst hentry
      exact absurd hprice (by simpa using hx x hxmem)
  | some x =>
    have hprice : x.price ≈ price := by simpa using List.find?_some hx
    refine (hmem _ _).mp (List.mem_map.mpr ⟨x, List.mem_of_find?_eq_some hx, ?_⟩)
    rw [Level.entry, Decimal.equiv_iff.mp hprice]

/-- The best-placed entry with a number is that of the first level with it. -/
theorem numbered?_eq (hm : levels.map Level.entry = m.toList) (id : Int) :
    m.numbered? id = (Levels.numbered? levels id).map Level.entry := by
  rw [numbered?, ← hm, List.find?_map]
  rfl

/-! ### What is edited -/

/-- To take away what rests at a price is to erase the price. -/
theorem awayFrom_listed (h : Levels.Ordered side levels)
    (hm : levels.map Level.entry = m.toList) (price : Decimal) :
    (Levels.awayFrom levels price).map Level.entry = (m.erase price.units).toList := by
  have hmem := (listed_iff h).mp hm
  have haway : Levels.Ordered side (Levels.awayFrom levels price) :=
    h.sublist List.filter_sublist
  rw [listed_iff haway]
  intro p q
  rw [Std.ExtTreeMap.getElem?_erase]
  split
  · next heq =>
    obtain rfl := Side.order_eq_eq_iff.mp heq
    constructor
    · intro he
      obtain ⟨x, hx, hentry⟩ := List.mem_map.mp he
      have hprice : x.price ≈ price := congrArg Prod.fst hentry
      exact absurd hprice (by simpa using (List.mem_filter.mp hx).2)
    · intro he
      cases he
  · next hne =>
    rw [← hmem, List.mem_map, List.mem_map]
    refine exists_congr fun x => and_congr_left fun hentry => ?_
    rw [Levels.awayFrom, List.mem_filter]
    refine and_iff_left ?_
    rw [decide_eq_true_eq]
    intro hprice
    have hp : x.price.units = p := congrArg Prod.fst hentry
    exact hne (Side.order_eq_eq_iff.mpr (hp.symm.trans hprice).symm)

/-- To write a level at the place of its price is to insert what it brings. -/
theorem put_listed {p : Place} {x : Level} (h : Levels.Ordered side p.levels)
    (hp : p.At side price) (hput : Levels.Ordered side (p.put x)) (hx : x.price ≈ price)
    (hm : p.levels.map Level.entry = m.toList) :
    (p.put x).map Level.entry = (m.insert price.units x.quote).toList := by
  have hcleared := awayFrom_listed h hm price
  rw [hp.awayFrom_eq] at hcleared
  have hmem := (listed_iff (h.sublist p.cleared_sublist)).mp hcleared
  rw [listed_iff hput]
  intro q quote
  have hcases : (q, quote) ∈ (p.put x).map Level.entry ↔
      (q, quote) = x.entry ∨ (q, quote) ∈ p.cleared.map Level.entry := by
    simp only [List.mem_map, Place.mem_put]
    constructor
    · rintro ⟨y, rfl | hy, hentry⟩
      · exact .inl hentry.symm
      · exact .inr ⟨y, hy, hentry⟩
    · rintro (hentry | ⟨y, hy, hentry⟩)
      · exact ⟨x, .inl rfl, hentry.symm⟩
      · exact ⟨y, .inr hy, hentry⟩
  rw [hcases, hmem, Std.ExtTreeMap.getElem?_erase, Std.ExtTreeMap.getElem?_insert, Level.entry,
    Decimal.equiv_iff.mp hx]
  split
  · next heq =>
    obtain rfl := Side.order_eq_eq_iff.mp heq
    simp [eq_comm]
  · next hne =>
    have hq : q ≠ price.units := fun h => hne (Side.order_eq_eq_iff.mpr h.symm)
    simp [hq]

end Quotes

namespace Ladder

variable {l l' : Ladder} {action : Action}

/-- **Every edit is what the action does to the map**, where levels are named by price. -/
theorem Edit.quotes {side : Side} (h : Book.SoundOn side l)
    (hvalid : ∀ level, action.Sets level → level.Settable) (he : l.Edit .price action l')
    {m : Quotes side} (hm : l.levels.map Level.entry = m.toList) :
    l'.levels.map Level.entry = (m.perform action).toList := by
  obtain ⟨rfl, h⟩ := h
  have hordered := h.ordered
  have hsound := he.sound h hvalid
  cases he with
  | deletedPrice price =>
    show (l.place price).cleared.map Level.entry = _
    rw [place_awayFrom hordered]
    exact Quotes.awayFrom_listed hordered hm price
  | deletedId id =>
    show (l.placeOfId id).cleared.map Level.entry = _
    have hplace := l.placeOfId_ofId id
    have hlevels := l.placeOfId_levels id
    have hfirst := Quotes.numbered?_eq hm id
    rw [← hlevels, hplace.numbered?_eq] at hfirst
    rw [Quotes.perform, hfirst]
    cases hx : (l.placeOfId id).resting with
    | none =>
      rw [← Place.levels_of_none hx, hlevels]
      exact hm
    | some x =>
      -- the place is also that of the price at which the level rests
      rw [← hlevels] at hordered hm
      have hat := Place.at_of_resting hordered hx (Setoid.refl _)
      rw [← hat.awayFrom_eq]
      exact Quotes.awayFrom_listed hordered hm x.price
  | @clearedPrice action level sets _ zero =>
    show (l.place level.price).cleared.map Level.entry = _
    rw [place_awayFrom hordered, Quotes.perform_of_sets sets, Quotes.set, if_pos zero]
    exact Quotes.awayFrom_listed hordered hm level.price
  | @setPrice action level sets _ nonzero =>
    show ((l.place level.price).put ((l.place level.price).written level)).map Level.entry = _
    have hplace := place_at hordered level.price
    have hlevels := l.place_levels level.price
    have hresting := Quotes.getElem?_eq_restingAt? hordered hm level.price
    rw [← hlevels, hplace.restingAt?_eq] at hresting
    have hquote : ⟨level.amount, level.id.or (m[level.price.units]?.bind (·.id))⟩ =
        ((l.place level.price).written level).quote := by
      rw [hresting, Place.written]
      cases (l.place level.price).resting with
      | none => exact congrArg (Quote.mk _) Option.or_none
      | some x => rfl
    rw [Quotes.perform_of_sets sets, Quotes.set, if_neg nonzero, hquote]
    refine Quotes.put_listed ?_ hplace hsound.ordered h.written_price ?_
    · rw [hlevels]
      exact hordered
    · rw [hlevels]
      exact hm
  | clearedId _ byId | amendedId byId | placedId _ byId => cases byId

/-- Where levels are named by price, no action fails. -/
theorem exists_apply_of_price (l : Ladder) (action : Action) (pool : Pool) (now : Instant) :
    ∃ r, l.apply .price action pool now = .ok r := by
  cases action with
  | insert level => exact ⟨_, rfl⟩
  | amend level => exact ⟨_, rfl⟩
  | delete address => cases address <;> exact ⟨_, rfl⟩

end Ladder

namespace Book

variable {b : Book} {id : Int} {c : Change} {cs : List Change}

/-- A valid change edits the map of its side and leaves the other one alone. -/
theorem applyChange_quotes (h : b.EachSide SoundOn) (hprice : b.options.addressing = .price)
    (hc : c.check = .ok ()) (pool : Pool) (now : Instant) :
    ∃ r, b.applyChange c pool now = .ok r ∧ ∀ side (m : Quotes side),
      (b.ladder side).levels.map Level.entry = m.toList →
        (r.1.ladder side).levels.map Level.entry = (m.performAll [c]).toList := by
  obtain ⟨⟨l, pool'⟩, hl⟩ := (b.ladder c.side).exists_apply_of_price c.action pool now
  have hedit := Ladder.apply_edit hl
  refine ⟨(b.setLadder c.side l, pool'), ?_, ?_⟩
  · rw [applyChange, hprice, hl]
    rfl
  · intro side m hm
    obtain ⟨hown, hother⟩ := b.ladder_setLadder c.side l
    show ((b.setLadder c.side l).ladder side).levels.map Level.entry =
      (if c.side = side then m.perform c.action else m).toList
    split
    · next hside =>
      subst hside
      rw [hown]
      exact hedit.quotes (h c.side) (Change.check_eq_ok_iff.mp hc) hm
    · next hside =>
      rw [hother side (Ne.symm hside)]
      exact hm

/-- Valid changes do not stop, and each side lists its map after them. -/
theorem applyInTurn_quotes (h : b.EachSide SoundOn) (hprice : b.options.addressing = .price)
    (hcs : checkChanges cs = .ok ()) (pool : Pool) (now : Instant) :
    let r := b.applyInTurn pool now cs
    r.error = none ∧ ∀ side (m : Quotes side), (b.ladder side).levels.map Level.entry = m.toList →
      (r.book.ladder side).levels.map Level.entry = (m.performAll cs).toList := by
  rw [checkChanges_eq_ok_iff] at hcs
  induction cs generalizing b pool with
  | nil => exact ⟨rfl, fun side m hm => hm⟩
  | cons c rest ih =>
    obtain ⟨hc, hrest⟩ := List.forall_mem_cons.mp hcs
    obtain ⟨r, hr, hone⟩ := applyChange_quotes h hprice hc pool now
    have hsound : r.1.EachSide SoundOn :=
      applyChange_keeps (soundOn_kept _) (Change.check_eq_ok_iff.mp hc) h hr
    have hoptions : r.1.options.addressing = .price := by
      rw [(applyChange_ok hr).1.options]
      exact hprice
    obtain ⟨herror, hall⟩ := ih hsound hoptions hrest r.2
    rw [applyInTurn, hr]
    exact ⟨herror, fun side m hm => hall side _ (hone side m hm)⟩

/-- **Books that name levels by price are maps.**  A message that follows the last one
and is valid never fails in a restored book whose sides are in strict order and
positive, and each side then lists, in its order, the map that the changes make of the
map which it listed before. -/
theorem quotes_of_apply (hrestored : b.restored = true) (hprice : b.options.addressing = .price)
    (h : b.EachSide SoundOn) (hnumber : b.checkNumber id = .ok ())
    (hcs : checkChanges cs = .ok ()) (pool : Pool) (now : Instant) :
    let r := b.apply id cs pool now
    r.error = none ∧ r.book.lastId = b.advanceId id ∧ ∀ side,
      (r.book.ladder side).levels.map Level.entry =
        ((Quotes.ofLevels side (b.ladder side).levels).performAll cs).toList := by
  intro r
  have hcheck : b.checkMessage id cs = .ok () := by
    rw [checkMessage, if_pos hrestored, hnumber]
    exact hcs
  obtain ⟨herror, hlists⟩ := applyInTurn_quotes h hprice hcs pool now
  have hr : r = { b.applyInTurn pool now cs with
      book := { (b.applyInTurn pool now cs).book with lastId := b.advanceId id } } := by
    have hframe := b.applyInTurn_frame pool now cs
    show b.apply id cs pool now = _
    rw [apply, hcheck]
    dsimp only
    rw [herror]
    unfold advanceId
    rw [hframe.1.options, hframe.2]
  rw [hr]
  refine ⟨herror, rfl, ?_⟩
  intro side
  have hside := hlists side _ (Quotes.ofLevels_listed (h side).ordered)
  -- the last number alone is new besides
  cases side <;> exact hside

/-! A book with two bids, the better of which has a number, and one ask.  The price of
the second is named at another scale. -/

def pricedBook : Book where
  key := ⟨"binance", ⟨"BTC", "USDT"⟩, .spot⟩
  options := {}
  bids := ⟨.bid, [⟨.hundred, .two, some 7⟩, ⟨.ofNat 99, .two, none⟩]⟩
  asks := ⟨.ask, [⟨.ofNat 101, .two, none⟩]⟩
  lastId := 1
  restored := true
  invalidation := none

/-- The number comes to rest at a second price, and is then deleted where it rests
best; an ask is set to nothing, and what is deleted besides does not rest there. -/
def pricedChanges : List Change :=
  [⟨.bid, .amend ⟨.tenths 990, .hundred, none⟩⟩, ⟨.bid, .insert ⟨.ofNat 98, .two, some 7⟩⟩,
    ⟨.bid, .delete (.id 7)⟩, ⟨.ask, .insert ⟨.ofNat 101, .zero, none⟩⟩,
    ⟨.ask, .delete (.price (.tenths 990))⟩, ⟨.ask, .delete (.id 7)⟩]

theorem quotes_of_pricedBook :
    pricedBook.restored = true ∧ pricedBook.options.addressing = .price ∧
      pricedBook.EachSide SoundOn ∧ pricedBook.checkNumber 2 = .ok () ∧
      checkChanges pricedChanges = .ok () ∧
      let r := pricedBook.apply 2 pricedChanges (.empty 0) 0
      r.error = none ∧ r.book.lastId = 2 ∧
        r.book.bids.levels = [⟨.ofNat 99, .hundred, none⟩, ⟨.ofNat 98, .two, some 7⟩] ∧
        r.book.asks.levels = [] ∧ ∀ side, (r.book.ladder side).levels.map Level.entry =
          ((Quotes.ofLevels side (pricedBook.ladder side).levels).performAll
            pricedChanges).toList := by
  have hsound : pricedBook.EachSide SoundOn :=
    eachSide_iff.mpr ⟨⟨rfl, (by decide : Levels.Sound .bid _)⟩, rfl,
      (by decide : Levels.Sound .ask _)⟩
  have hcs : checkChanges pricedChanges = .ok () := by decide
  have hnumber : pricedBook.checkNumber 2 = .ok () := rfl
  obtain ⟨herror, hid, hlists⟩ :=
    quotes_of_apply (b := pricedBook) rfl rfl hsound hnumber hcs (.empty 0) 0
  exact ⟨rfl, rfl, hsound, hnumber, hcs, herror, hid, by decide, by decide, hlists⟩

end Book

end MarketDepth
