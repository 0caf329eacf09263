/-
MarketDepth/Message.lean

What a venue sends about a book: the whole of it, or the changes since the
last message.
-/
import MarketDepth.Instrument
import MarketDepth.Level
import MarketDepth.Side

namespace MarketDepth

/-- How a message names a resting level. -/
inductive Address
  | price (p : Decimal)
  | id (i : Int)
deriving DecidableEq

inductive Action
  | insert (level : Level)
  | amend (level : Level)
  | delete (address : Address)
deriving DecidableEq

/-- An action on one side of a book. -/
structure Change where
  side : Side
  action : Action
deriving DecidableEq

namespace Change

/-- The level that a change sets, if it sets one. -/
def level? (c : Change) : Option Level :=
  match c.action with
  | .insert level => some level
  | .amend level => some level
  | .delete _ => none

end Change

/-- Changes under one number, with the venue's checksum of the book after them. -/
structure Delta where
  id : Int
  changes : List Change
  checksum : Option UInt32
deriving DecidableEq

/-- Both sides of a book under one number, with the venue's checksum of them. -/
structure Snapshot where
  id : Int
  bids : List Level
  asks : List Level
  checksum : Option UInt32
deriving DecidableEq

inductive Payload
  | snapshot (s : Snapshot)
  | delta (d : Delta)
deriving DecidableEq

/-- A message about the book with a given key. -/
structure Message where
  key : Key
  payload : Payload
deriving DecidableEq

end MarketDepth
