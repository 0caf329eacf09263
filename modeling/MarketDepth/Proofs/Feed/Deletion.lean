/-
MarketDepth/Proofs/Feed/Deletion.lean

Lines that delete one level.

A deletion on a line may name its level by a price, by a number, or by both.  If it
brings a number, that is what it goes by: the price is read and then forgotten,
however the book names its levels.  So a deletion that names a price clears this price
and leaves all others alone exactly if it brings no number, or one that means the level
at the price.

Main result: `Feed.deletion_of_run`, from the line to the book.
-/
import MarketDepth.Feed.Replay
import MarketDepth.Proofs.Book.Deletions
import MarketDepth.Proofs.Book.Ids
import MarketDepth.Proofs.Market.Channels

namespace MarketDepth

/-- Only a message that the book takes, being in step, is answered as applied. -/
theorem Channel.Effect.takes_of_applied {c c' : Channel} {d : Delta}
    (h : c.Effect (.delta d) c' (.ok .applied)) :
    c.phase = .synced ∧ c.book.Takes d c'.book := by
  cases h with
  | applied synced takes => exact ⟨synced, takes⟩

namespace Feed

variable {line : String} {raw : Raw.Message} {change : Raw.Change} {price : Decimal}
variable {m : Market} {clock : Nat → Instant} {message : Message}

/-! ### Reading the line -/

/-- What a deletion that names a price goes by. -/
def addressBy (id : Option Int) (price : Decimal) : Address :=
  match id with
  | some id => .id id
  | none => .price price

theorem changeOf_deletion {c : Change} (hverb : Verb.ofWord change.action = .ok .delete)
    (hprice : change.price = some price) (h : changeOf change = .ok c) :
    ∃ side, Side.ofWord change.side = .ok side ∧
      c = ⟨side, .delete (addressBy change.id price)⟩ := by
  have haddress : addressOf change = .ok (addressBy change.id price) := by
    unfold addressOf addressBy
    rw [hprice]
    cases change.id <;> rfl
  unfold changeOf at h
  rw [hverb, haddress] at h
  cases hside : Side.ofWord change.side with
  | error e =>
    rw [hside] at h
    cases h
  | ok side =>
    rw [hside] at h
    exact ⟨side, rfl, (Except.ok.inj h).symm⟩

/-- A line with one deletion is a message with one change. -/
theorem decodeLine_deletion (hline : Json.Reader.complete Raw.Message.reader line = .ok raw)
    (hupdate : raw.kind = .update) (hchanges : raw.changes = [change])
    (hverb : Verb.ofWord change.action = .ok .delete) (hprice : change.price = some price)
    (h : decodeLine line = .ok message) :
    ∃ key side, Key.ofWords raw.exchange raw.pair raw.segment = .ok key ∧
      Side.ofWord change.side = .ok side ∧
      message = ⟨key,
        .delta ⟨raw.id, [⟨side, .delete (addressBy change.id price)⟩], raw.checksum⟩⟩ := by
  unfold decodeLine at h
  rw [hline] at h
  have h : messageOf raw = .ok message := h
  unfold messageOf at h
  rw [hupdate, hchanges] at h
  cases hkey : Key.ofWords raw.exchange raw.pair raw.segment with
  | error e =>
    rw [hkey] at h
    cases h
  | ok key =>
    rw [hkey] at h
    cases hc : changeOf change with
    | error e =>
      simp [hc, Except.mapError, bind, Except.bind] at h
    | ok c =>
      obtain ⟨side, hside, rfl⟩ := changeOf_deletion hverb hprice hc
      refine ⟨key, side, rfl, hside, ?_⟩
      simp only [List.mapM_cons, List.mapM_nil, hc, Except.mapError, bind, Except.bind, pure,
        Except.pure, Except.ok.injEq] at h
      exact h.symm

/-! ### Passing it to the book -/

theorem receiveLine_applied (h : (receiveLine m line clock).2 = .ok .applied) :
    ∃ message, decodeLine line = .ok message ∧
      (receiveLine m line clock).1 = (m.receive message clock).1 ∧
      (m.receive message clock).2 = .ok .applied := by
  unfold receiveLine at h ⊢
  cases hdecode : decodeLine line with
  | error e => simp [hdecode] at h
  | ok message =>
    refine ⟨message, rfl, rfl, ?_⟩
    simp only [hdecode] at h
    cases hreceive : (m.receive message clock).2 with
    | error e => simp [hreceive, Except.mapError] at h
    | ok outcome =>
      rw [hreceive] at h
      exact congrArg Except.ok (Except.ok.inj h)

/-- Changes that are applied were taken by a book that was open, and in step. -/
theorem receive_applied {limit : Nat} {key : Key} {d : Delta} (hm : m.Grown limit)
    (h : (m.receive ⟨key, .delta d⟩ clock).2 = .ok .applied) :
    ∃ c c', m.find? key = some c ∧ (m.receive ⟨key, .delta d⟩ clock).1.find? key = some c' ∧
      c.book.Takes d c'.book := by
  have houtcome : ((m.channelFor key).receive (.delta d) m.pool clock).outcome = .ok .applied := h
  have heffect := Channel.receive_effect (hm.channelFor key).legal.ready (.delta d) m.pool clock
  rw [houtcome] at heffect
  obtain ⟨hsynced, htakes⟩ := heffect.takes_of_applied
  refine ⟨_, _, ?_, m.find?_receive ⟨key, .delta d⟩ clock, htakes⟩
  unfold Market.channelFor at hsynced ⊢
  cases hfind : m.find? key with
  | none =>
    rw [hfind] at hsynced
    cases hsynced
  | some c => rfl

/-- **What a deletion that names a price takes away**, in a market after any calls.  If
the line has one change, a deletion with a price, and is answered as applied, the other
side of the book stays as it was.  If the line brings no number, what remains of the
side is what rests away from the price.  If it brings a number, the first level with
this number goes, whatever the price; and what remains is what rests away from the
price exactly if that level was the one at the price, or there was neither. -/
theorem deletion_of_run (defaults : Options) (limit : Nat) (pool : Pool)
    (calls : List Market.Call) (hmarket : m = (Market.empty defaults limit pool).run calls)
    (hline : Json.Reader.complete Raw.Message.reader line = .ok raw)
    (hupdate : raw.kind = .update) (hchanges : raw.changes = [change])
    (hverb : Verb.ofWord change.action = .ok .delete) (hprice : change.price = some price)
    (happlied : (receiveLine m line clock).2 = .ok .applied) :
    ∃ key side c c', Key.ofWords raw.exchange raw.pair raw.segment = .ok key ∧
      Side.ofWord change.side = .ok side ∧
      m.find? key = some c ∧ (receiveLine m line clock).1.find? key = some c' ∧
      (∀ other, other ≠ side → c'.book.ladder other = c.book.ladder other) ∧
      let old := (c.book.ladder side).levels
      let new := (c'.book.ladder side).levels
      (change.id = none → new = Levels.awayFrom old price) ∧
      ∀ id, change.id = some id → new = Levels.withoutFirst old id ∧
        (new = Levels.awayFrom old price ↔
          Levels.numbered? old id = Levels.restingAt? old price) := by
  have hgrown : m.Grown limit := by
    rw [hmarket]
    exact Market.grown_of_run defaults limit pool calls
  obtain ⟨message, hdecode, hafter, hreceive⟩ := receiveLine_applied happlied
  obtain ⟨key, side, hkey, hside, rfl⟩ :=
    decodeLine_deletion hline hupdate hchanges hverb hprice hdecode
  obtain ⟨c, c', hfind, hfind', htakes⟩ := receive_applied hgrown hreceive
  obtain ⟨hedit, hother⟩ := htakes.edit rfl
  rw [← hafter] at hfind'
  have hordered := ((hgrown.channels key c hfind).sound side).2.ordered
  refine ⟨key, side, c, c', hkey, hside, hfind, hfind', hother, ?_, ?_⟩
  · intro hid
    rw [hid] at hedit
    exact hedit.levels_of_deletePrice hordered
  · intro id hid
    rw [hid] at hedit
    have hnew := hedit.levels_of_deleteId
    rw [hnew]
    exact ⟨rfl, Ladder.withoutFirst_eq_awayFrom_iff hordered⟩

/-! A book whose levels are named by price, the better of two bids in which has a
number. -/

open Channel (exampleKey wholeLevel)

def numberedBids : List Level := [Book.numbered 100 1 7, wholeLevel 99 2]

def numberedCalls : List Market.Call :=
  [⟨.receive ⟨exampleKey, .snapshot ⟨1, numberedBids, [wholeLevel 101 3], none⟩⟩,
    fun _ => 0⟩]

def numberedMarket : Market :=
  (Market.empty { verify := true } 3 (.empty 0)).run numberedCalls

/-- A line that deletes a bid. -/
def deletionLine (address : String) : String :=
  "\x7b\"exchange\":\"binance\",\"pair\":\"BTC-USDT\",\"type\":\"update\",\"update_id\":2," ++
    "\"changes\":[\x7b\"side\":\"bid\",\"action\":\"delete\"," ++ address ++ "\x7d]\x7d"

def deletionRecord (price : Decimal) (id : Option Int) : Raw.Message where
  exchange := "binance"
  pair := "BTC-USDT"
  segment := Raw.Message.defaultSegment
  kind := .update
  id := 2
  bids := []
  asks := []
  changes := [⟨"bid", "delete", some price, none, id⟩]
  checksum := none

/-- The number is that of the level at the price. -/
theorem deletion_of_numberedMarket :
    let line := deletionLine "\"price\":\"100\",\"id\":7"
    ∃ c c', numberedMarket.find? exampleKey = some c ∧
      (receiveLine numberedMarket line fun _ => 0).1.find? exampleKey = some c' ∧
      (receiveLine numberedMarket line fun _ => 0).2 = .ok .applied ∧
      c'.book.bids.levels = Levels.awayFrom c.book.bids.levels (.ofNat 100) := by
  intro line
  have hline : Json.Reader.complete Raw.Message.reader line =
      .ok (deletionRecord (.ofNat 100) (some 7)) := by decide +kernel
  have hverb : Verb.ofWord "delete" = .ok .delete := by decide +kernel
  have happlied : (receiveLine numberedMarket line fun _ => 0).2 = .ok .applied := by
    decide +kernel
  have hwords : Key.ofWords "binance" "BTC-USDT" "spot" = .ok exampleKey := by decide +kernel
  have hword : Side.ofWord "bid" = .ok .bid := by decide +kernel
  have hbids : (numberedMarket.channelFor exampleKey).book.bids.levels = numberedBids := by
    decide +kernel
  obtain ⟨key, side, c, c', hkey, hside, hfind, hfind', -, -, hnumber⟩ :=
    deletion_of_run (m := numberedMarket) { verify := true } 3 (.empty 0) numberedCalls rfl
      hline rfl rfl hverb rfl happlied
  obtain rfl : exampleKey = key := Except.ok.inj (hwords.symm.trans hkey)
  obtain rfl : Side.bid = side := Except.ok.inj (hword.symm.trans hside)
  rw [Market.channelFor, hfind] at hbids
  refine ⟨c, c', hfind, hfind', happlied, ((hnumber 7 rfl).2).mpr ?_⟩
  have hbids : (c.book.ladder .bid).levels = numberedBids := hbids
  rw [hbids]
  decide +kernel

/-- The number is that of another level: the level at the price stays, and the other
one goes. -/
theorem deletion_of_otherLevel :
    let line := deletionLine "\"price\":\"99\",\"id\":7"
    let before := numberedMarket.channelFor exampleKey
    let after := (receiveLine numberedMarket line fun _ => 0).1.channelFor exampleKey
    before.book.options.addressing = .price ∧ before.view.isOk ∧
      Json.Reader.complete Raw.Message.reader line =
        .ok (deletionRecord (.ofNat 99) (some 7)) ∧
      (receiveLine numberedMarket line fun _ => 0).2 = .ok .applied ∧
      before.book.bids.levels = numberedBids ∧
      after.book.bids.levels = numberedBids.tail ∧
      after.book.bids.levels ≠ Levels.awayFrom before.book.bids.levels (.ofNat 99) := by
  decide +kernel

end Feed

end MarketDepth
