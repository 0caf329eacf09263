/-
MarketDepth/Book/Basic.lean

A book: the bids and the asks of one key, and how they are kept.

A new book is empty and knows nothing; it holds what a venue shows only once a
snapshot has been loaded.  A book that can no longer be trusted is invalidated
until the next snapshot, and keeps the reason.
-/
import MarketDepth.Checksum
import MarketDepth.Ladder

namespace MarketDepth

/-- How a venue numbers its messages. -/
inductive Numbering
  /-- Each message follows the one with the number before. -/
  | strict
  /-- Messages carry whole amounts and may come in any order. -/
  | loose
deriving DecidableEq, Repr

/-- How a venue names levels. -/
inductive Addressing
  | price
  | id
deriving DecidableEq, Repr

structure Options where
  /-- Snapshots and checksums are checked. -/
  verify : Bool := false
  numbering : Numbering := .strict
  addressing : Addressing := .price
  /-- How many levels of each side the checksum covers. -/
  checksumDepth : Nat := Checksum.defaultDepth
deriving DecidableEq, Repr

structure Book where
  key : Key
  options : Options
  bids : Ladder
  asks : Ladder
  lastId : Int
  /-- A snapshot was loaded. -/
  restored : Bool
  /-- Why the book waits for a new snapshot. -/
  invalidation : Option String

namespace Book

def empty (key : Key) (options : Options) : Book :=
  ⟨key, options, .empty .bid, .empty .ask, 0, false, none⟩

def ladder (b : Book) : Side → Ladder
  | .bid => b.bids
  | .ask => b.asks

/-- The book with one ladder replaced. -/
def setLadder (b : Book) (side : Side) (l : Ladder) : Book :=
  match side with
  | .bid => { b with bids := l }
  | .ask => { b with asks := l }

def invalidate (b : Book) (reason : String) : Book := { b with invalidation := some reason }

def setVerify (b : Book) (verify : Bool) : Book :=
  { b with options := { b.options with verify } }

/-- Hands back all nodes when the book is given up. -/
def giveUp (b : Book) (pool : Pool) (now : Instant) : Pool :=
  (b.asks.vacateAll (b.bids.vacateAll pool now).2 now).2

/-! ### Checksum -/

def checksum (b : Book) : UInt32 :=
  Checksum.ofLevels b.bids.levels b.asks.levels b.options.checksumDepth

/-- Compares the venue's checksum with that of the book, if the book is verified. -/
def compareChecksum (b : Book) (expected : UInt32) : Except BookError Unit :=
  if b.options.verify then
    if b.checksum = expected ∧ b.bids.isOrdered ∧ b.asks.isOrdered then .ok ()
    else .error (.integrity expected b.checksum)
  else .ok ()

/-! ### Reading -/

/-- The book may be read: a snapshot was loaded and nothing has invalidated it since. -/
def readable (b : Book) : Except BookError Unit :=
  if b.restored then
    match b.invalidation with
    | some reason => .error (.invalidated b.key reason)
    | none => .ok ()
  else .error (.notFound b.key)

end Book

end MarketDepth
