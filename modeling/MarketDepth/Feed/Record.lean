/-
MarketDepth/Feed/Record.lean

One line of a feed, before its words are understood.

A line is a JSON record.  Both kinds of message share one form: a snapshot
brings bids and asks, an update brings changes, and what does not belong to the
kind is read all the same, so that it has to be well formed.
-/
import MarketDepth.Json.Decode

namespace MarketDepth.Feed.Raw

open Json (Member Reader)

inductive Kind
  | snapshot
  | update
deriving DecidableEq, Repr

/-- A change whose side and action are still words. -/
structure Change where
  side : String
  action : String
  price : Option Decimal
  amount : Option Decimal
  id : Option Int
deriving DecidableEq

structure Message where
  exchange : String
  pair : String
  segment : String
  kind : Kind
  id : Int
  bids : List Level
  asks : List Level
  changes : List Change
  checksum : Option UInt32
deriving DecidableEq

def Kind.reader : Reader Kind :=
  Reader.choice [("snapshot", snapshot), ("update", update), ("delta", update)]

/-! ### Changes -/

namespace Change

structure Slots where
  side : Option String := none
  action : Option String := none
  price : Option (Option Decimal) := none
  amount : Option (Option Decimal) := none
  id : Option (Option Int) := none

def members : List (Member Slots) := [
  .slot "side" true Slots.side (fun s t => { s with side := some t }) Reader.string,
  .slot "action" true Slots.action (fun s t => { s with action := some t }) Reader.string,
  .slot "price" false Slots.price (fun s d => { s with price := some d })
    (Reader.nullable Decimal.reader),
  .slot "amount" false Slots.amount (fun s d => { s with amount := some d })
    (Reader.nullable Decimal.reader),
  .slot "id" false Slots.id (fun s i => { s with id := some i }) (Reader.nullable idReader)]

def reader : Reader Change := do
  let s ← Reader.record members {}
  return ⟨← Json.filled s.side, ← Json.filled s.action, s.price.join, s.amount.join, s.id.join⟩

end Change

/-! ### Messages -/

/-- A checksum has 32 bits. -/
def checksumReader : Reader UInt32 := do
  return UInt32.ofNat (← Reader.integer 0 (twoPow 32 - 1)).toNat

namespace Message

structure Slots where
  exchange : Option String := none
  pair : Option String := none
  segment : Option String := none
  kind : Option Kind := none
  id : Option Int := none
  bids : Option (List Level) := none
  asks : Option (List Level) := none
  changes : Option (List Change) := none
  checksum : Option (Option UInt32) := none

def members : List (Member Slots) := [
  .slot "exchange" true Slots.exchange (fun s t => { s with exchange := some t }) Reader.string,
  .slot "pair" true Slots.pair (fun s t => { s with pair := some t }) Reader.string,
  .slot "asset" false Slots.segment (fun s t => { s with segment := some t }) Reader.string,
  .slot "type" true Slots.kind (fun s k => { s with kind := some k }) Kind.reader,
  .slot "update_id" true Slots.id (fun s i => { s with id := some i }) idReader,
  .slot "bids" false Slots.bids (fun s ls => { s with bids := some ls })
    (Reader.list Level.reader),
  .slot "asks" false Slots.asks (fun s ls => { s with asks := some ls })
    (Reader.list Level.reader),
  .slot "changes" false Slots.changes (fun s cs => { s with changes := some cs })
    (Reader.list Change.reader),
  .slot "checksum" false Slots.checksum (fun s c => { s with checksum := some c })
    (Reader.nullable checksumReader)]

/-- The segment of a message that names none. -/
def defaultSegment : String := "spot"

def reader : Reader Message := do
  let s ← Reader.record members {}
  return {
    exchange := ← Json.filled s.exchange
    pair := ← Json.filled s.pair
    segment := s.segment.getD defaultSegment
    kind := ← Json.filled s.kind
    id := ← Json.filled s.id
    bids := s.bids.getD []
    asks := s.asks.getD []
    changes := s.changes.getD []
    checksum := s.checksum.join }

end Message

end MarketDepth.Feed.Raw
