/-
MarketDepth/Proofs/Feed/Export.lean

Books that go out on a line and come in again.

A reader can write what he sees of a book as the line of a snapshot, with the texts that
name its key and with the levels in the form in which readers are shown them.  The line is
read back as just this snapshot (`Feed.decodeLine_snapshotLine`): every value is read as it
was written, and the texts spell the key.  A new book that takes it in holds what the first
one held, since the levels of a book are in order and positive already, so that nothing is
left to be sorted out (`Book.load_view`).

Main result: `Feed.reimported_of_export`.
-/
import Mathlib.Control.Monad.Basic
import MarketDepth.Feed.Line
import MarketDepth.Proofs.Book.Fits
import MarketDepth.Proofs.Channel.Calls
import MarketDepth.Proofs.Json.Levels
import MarketDepth.Proofs.Keys
import MarketDepth.Proofs.Market.Run

namespace MarketDepth

/-! ### The line -/

namespace View

/-- What is seen of a book, as a snapshot. -/
def snapshot (v : View) : Snapshot := ⟨v.lastId, v.bids, v.asks, none⟩

/-- The members of the line of a snapshot. -/
def snapshotMembers (v : View) : List (String × Json) :=
  [("exchange", .text v.key.exchange), ("pair", .text v.key.pair.text),
   ("asset", .text v.key.segment.name), ("type", .text "snapshot"), ("update_id", .int v.lastId),
   ("bids", .ofList Level.toJson v.bids), ("asks", .ofList Level.toJson v.asks)]

/-- The line of a snapshot with what is seen of a book. -/
def snapshotLine (v : View) : String := (Json.object v.snapshotMembers).render

/-- Its last number, and the numbers of its levels, are numbers that a line can carry. -/
structure Fits (v : View) : Prop where
  lastId : IdFits v.lastId
  bids : ∀ l ∈ v.bids, l.Fits
  asks : ∀ l ∈ v.asks, l.Fits

end View

namespace Feed

open Json (Fills Reads)

variable {v : View}

/-- The line of a snapshot is read back as the record of one. -/
theorem complete_snapshotLine (h : v.Fits) :
    Json.Reader.complete Raw.Message.reader v.snapshotLine =
      .ok ⟨v.key.exchange, v.key.pair.text, v.key.segment.name, .snapshot, v.lastId, v.bids,
        v.asks, [], none⟩ := by
  have hlevels : ∀ levels : List Level, (∀ l ∈ levels, l.Fits) →
      Reads (Json.Reader.list Level.reader) (Json.ofList Level.toJson levels).chars levels :=
    fun levels hfits => Json.reads_list fun l hl => Json.reads_level (hfits l hl)
  -- the slots for changes and for a checksum stay empty
  have hfills : Fills Raw.Message.members {} v.snapshotMembers
      { exchange := some v.key.exchange, pair := some v.key.pair.text
        segment := some v.key.segment.name, kind := some .snapshot, id := some v.lastId
        bids := some v.bids, asks := some v.asks } := by
    refine .cons rfl rfl (Json.reads_slot _ (Json.reads_string _)) ?_
    refine .cons rfl rfl (Json.reads_slot _ (Json.reads_string _)) ?_
    refine .cons rfl rfl (Json.reads_slot _ (Json.reads_string _)) ?_
    refine .cons rfl rfl (Json.reads_slot _ (Json.reads_choice rfl)) ?_
    refine .cons rfl rfl (Json.reads_slot _ (Json.reads_id h.lastId)) ?_
    refine .cons rfl rfl (Json.reads_slot _ (hlevels v.bids h.bids)) ?_
    exact .cons rfl rfl (Json.reads_slot _ (hlevels v.asks h.asks)) (.nil _)
  have hrecord := Json.reads_record hfills rfl
  have hreader : Reads Raw.Message.reader (Json.object v.snapshotMembers).chars
      ⟨v.key.exchange, v.key.pair.text, v.key.segment.name, .snapshot, v.lastId, v.bids,
        v.asks, [], none⟩ := by
    refine ⟨hrecord.begins, fun rest hrest => ?_⟩
    rw [Raw.Message.reader]
    exact Json.Reader.bind_of_ok (hrecord.run rest hrest)
  exact hreader.complete

/-- The line of a snapshot is understood as this snapshot, if its key was spelt by words. -/
theorem decodeLine_snapshotLine {exchange pair segment : String}
    (hkey : Key.ofWords exchange pair segment = .ok v.key) (h : v.Fits) :
    decodeLine v.snapshotLine = .ok ⟨v.key, .snapshot v.snapshot⟩ := by
  rw [decodeLine, complete_snapshotLine h]
  show messageOf _ = _
  rw [messageOf, Key.ofWords_name hkey]
  rfl

end Feed

/-! ### Taking it in -/

namespace Book

variable {b : Book}

theorem Fits.view (h : b.Fits) : b.view.Fits := ⟨h.lastId, h.levels .bid, h.levels .ask⟩

/-- A new book that is not verified takes in the view of a sound one as it is. -/
theorem load_view {options : Options} (h : b.EachSide SoundOn) (hverify : options.verify = false) :
    (empty b.key options).load b.view.snapshot =
      .ok { b with options, restored := true, invalidation := none } := by
  obtain ⟨key, old, ⟨bidSide, bids⟩, ⟨askSide, asks⟩, lastId, restored, invalidation⟩ := b
  obtain rfl : bidSide = .bid := (h .bid).1
  obtain rfl : askSide = .ask := (h .ask).1
  have hbids : Levels.Sound .bid bids := (h .bid).2
  have hasks : Levels.Sound .ask asks := (h .ask).2
  have hsides : (empty key options).intakeSides bids asks = .ok (bids, asks) := by
    rw [intakeSides_of_unverified hverify, Levels.arrange_of_sound hbids,
      Levels.arrange_of_sound hasks]
  unfold load
  dsimp only [view, View.snapshot]
  rw [hsides]
  rfl

end Book

namespace Market

variable {key : Key} {options : Options} {s : Snapshot} {b : Book}

/-- The first message about a book, if it is a snapshot that the book takes and that bears
no checksum, brings it into step. -/
theorem receive_first_snapshot (h : (Book.empty key options).load s = .ok b)
    (hchecksum : s.checksum = none) (limit : Nat) (pool : Pool) (clock : Nat → Instant) :
    let r := (empty options limit pool).receive ⟨key, .snapshot s⟩ clock
    r.2 = .ok (.synced 0 0) ∧ ∃ c, r.1.find? key = some c ∧ c.phase = .synced ∧ c.book = b := by
  obtain ⟨pool', hrestore⟩ := Book.restore_of_load h pool (clock 0)
  have hstep : (Channel.empty key options limit).receiveSnapshot s pool clock =
      ⟨({ Channel.empty key options limit with
          book := b, phase := .synced, stats := { snapshots := 1 } } : Channel).countDiscarded 0,
        pool', .ok (.synced 0 0)⟩ := by
    rw [Channel.receiveSnapshot]
    simp only [Channel.empty, hrestore, hchecksum, Channel.heldInOrder]
    simp [Channel.replayHeld, Channel.countDiscarded]
  refine ⟨?_, _, find?_receive _ ⟨key, .snapshot s⟩ clock, ?_⟩
  · show ((Channel.empty key options limit).receiveSnapshot s pool clock).outcome = _
    rw [hstep]
  · show ((Channel.empty key options limit).receiveSnapshot s pool clock).channel.phase = .synced ∧
      ((Channel.empty key options limit).receiveSnapshot s pool clock).channel.book = b
    rw [hstep]
    exact ⟨rfl, rfl⟩

end Market

namespace Feed

/-- **A book goes out on a line and comes in again.**  The book may be any that calls have
made of a new one, if it can be read and its key was spelt by words.  The line says its key,
its last number and its levels, with their scales and numbers; and a market without books,
whose books are not verified, makes of it the book that it was, but for its own options.

The numbers of the book must have 64 bits; those of a book that was only asked with such
numbers do (`Book.run_fits`). -/
theorem reimported_of_export {key : Key} {exchange pair segment : String} {options : Options}
    {b : Book} (hkey : Key.ofWords exchange pair segment = .ok key)
    (hbook : (Book.empty key options).LeadsTo b) (hread : b.readable = .ok ())
    (hfits : b.Fits) :
    let message : Message := ⟨key, .snapshot ⟨b.lastId, b.bids.levels, b.asks.levels, none⟩⟩
    decodeLine b.view.snapshotLine = .ok message ∧
      ∀ (defaults : Options) (limit : Nat) (pool : Pool) (clock : Nat → Instant),
        defaults.verify = false →
          let r := (Market.empty defaults limit pool).receive message clock
          r.2 = .ok (.synced 0 0) ∧
            ∃ c, r.1.find? key = some c ∧ c.phase = .synced ∧
              c.book = { b with options := defaults } := by
  intro message
  have hname : b.key = key := hbook.key
  have hsound : b.EachSide Book.SoundOn := by
    obtain ⟨calls, rfl⟩ := hbook
    exact Book.run_sound key options calls
  obtain ⟨hrestored, hinvalidation⟩ := Book.readable_eq_ok_iff.mp hread
  subst hname
  refine ⟨decodeLine_snapshotLine (v := b.view) hkey hfits.view, ?_⟩
  intro defaults limit pool clock hverify
  have hload := Book.load_view hsound hverify
  rw [← hrestored, ← hinvalidation] at hload
  exact Market.receive_first_snapshot hload rfl limit pool clock

/-! A verified book with levels named by number: its prices and amounts are written at
different scales, one level has no number, and one has come after the snapshot. -/

def spelledKey : Key := ⟨"binance", ⟨"BTC", "USDT"⟩, .perpetualSwap⟩

/-- A decimal with a small mantissa. -/
def smallDecimal (mantissa : UInt8) (scale : Fin 29) : Decimal :=
  ⟨mantissa.toNat, scale, Nat.lt_trans mantissa.toNat_lt (by decide), Nat.le_of_lt_succ scale.2⟩

def exportedCalls : List Book.Call :=
  [⟨.restore
      [⟨smallDecimal 105 1, smallDecimal 100 2, some 1⟩,
        ⟨smallDecimal 90 2, smallDecimal 20 1, none⟩]
      [⟨smallDecimal 110 1, smallDecimal 5 1, some 1⟩] 7, .empty 0, 0⟩,
    ⟨.apply 8 [⟨.bid, .insert ⟨smallDecimal 107 1, smallDecimal 25 2, some (-3)⟩⟩], .empty 0, 0⟩]

def exportedBook : Book :=
  (Book.empty spelledKey { verify := true, addressing := .id }).run exportedCalls

theorem reimported_of_exportedBook :
    Key.ofWords " Binance " "btc/ usdt" "Perp" = .ok spelledKey ∧
      exportedBook.readable = .ok () ∧ exportedBook.Fits ∧
      decodeLine exportedBook.view.snapshotLine =
        .ok ⟨spelledKey, .snapshot exportedBook.view.snapshot⟩ ∧
      ∃ c, ((Market.empty {} 3 (.empty 0)).receive
          ⟨spelledKey, .snapshot exportedBook.view.snapshot⟩ fun _ => 0).1.find? spelledKey =
            some c ∧
        c.book = { exportedBook with options := {} } := by
  have hkey : Key.ofWords " Binance " "btc/ usdt" "Perp" = .ok spelledKey := by decide +kernel
  have hread : exportedBook.readable = .ok () := by decide +kernel
  have hfits : exportedBook.Fits := Book.run_fits _ _ (by decide)
  obtain ⟨hline, hmarket⟩ := reimported_of_export hkey ⟨exportedCalls, rfl⟩ hread hfits
  obtain ⟨-, c, hfind, -, hbook⟩ := hmarket {} 3 (.empty 0) (fun _ => 0) rfl
  exact ⟨hkey, hread, hfits, hline, c, hfind, hbook⟩

example : exportedBook.view.snapshotLine =
    "\x7b\"exchange\":\"binance\",\"pair\":\"BTC-USDT\",\"asset\":\"perpetual_swap\"," ++
      "\"type\":\"snapshot\",\"update_id\":8,\"bids\":[" ++
      "\x7b\"price\":\"10.7\",\"amount\":\"0.25\",\"id\":-3\x7d," ++
      "\x7b\"price\":\"10.5\",\"amount\":\"1.00\",\"id\":1\x7d," ++
      "\x7b\"price\":\"0.90\",\"amount\":\"2.0\"\x7d],\"asks\":[" ++
      "\x7b\"price\":\"11.0\",\"amount\":\"0.5\",\"id\":1\x7d]\x7d" := by
  decide +kernel

end Feed

end MarketDepth
