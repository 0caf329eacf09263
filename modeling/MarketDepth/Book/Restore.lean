/-
MarketDepth/Book/Restore.lean

Loading a snapshot into a book.

A verified book takes a snapshot only as it stands: every level positive, no
number twice on a side, both sides in order, and the best bid below the best
ask.  Any other book sorts out what it gets: levels that are not positive are
left away, the others are put in order, and of several at one price the last
one stays.
-/
import MarketDepth.Book.Basic

namespace MarketDepth

/-- What is wrong with a snapshot; levels are counted from zero. -/
inductive SnapshotFault
  | price (side : Side) (index : Nat) (price : Decimal)
  | amount (side : Side) (index : Nat) (amount : Decimal)
  | repeatedId (side : Side) (index : Nat) (id : Int)
  | repeatedPrice (side : Side) (index : Nat) (price : Decimal)
  | order (side : Side) (index : Nat) (price previous : Decimal)
  | crossed (bid ask : Decimal)
deriving DecidableEq

namespace SnapshotFault

def subject (side : Side) (index : Nat) : String := side.name ++ " level " ++ toString index

def message : SnapshotFault → String
  | price side index p => subject side index ++ " has non-positive price " ++ p.toText
  | amount side index a => subject side index ++ " has non-positive amount " ++ a.toText
  | repeatedId side index id => subject side index ++ " duplicates id " ++ toString id
  | repeatedPrice side index p => subject side index ++ " duplicates price " ++ p.toText
  | order side index p previous =>
    subject side index ++ " out of order: " ++ p.toText ++ " after " ++ previous.toText
  | crossed bid ask => "crossed book: best bid " ++ bid.toText ++ " >= best ask " ++ ask.toText

end SnapshotFault

/-! ### Checking -/

namespace Levels

/-- Checks the levels of a side from the `index`-th one on; `ids` are the
numbers met so far, and `previous` is the price of the level before. -/
def checkFrom (side : Side) (index : Nat) (ids : List Int) (previous : Option Decimal) :
    List Level → Except SnapshotFault Unit
  | [] => .ok ()
  | l :: rest =>
    if l.price ≤ .zero then .error (.price side index l.price)
    else if l.amount ≤ .zero then .error (.amount side index l.amount)
    else
      match l.id.filter (ids.contains ·), previous.filter (¬side.Ahead · l.price) with
      | some id, _ => .error (.repeatedId side index id)
      | none, some p =>
        if p ≈ l.price then .error (.repeatedPrice side index l.price)
        else .error (.order side index l.price p)
      | none, none => checkFrom side (index + 1) (l.id.toList ++ ids) (some l.price) rest

def check (side : Side) (levels : List Level) : Except SnapshotFault Unit :=
  checkFrom side 0 [] none levels

/-! ### Sorting out -/

/-- Of neighbours at one price keeps the last. -/
def mergeSame : List Level → List Level
  | a :: b :: rest =>
    if a.price ≈ b.price then mergeSame (b :: rest) else a :: mergeSame (b :: rest)
  | levels => levels

/-- The positive levels in order, the last one at each price. -/
def arrange (side : Side) (levels : List Level) : List Level :=
  mergeSame ((levels.filter (·.Positive)).mergeSort fun a b => !side.Ahead b.price a.price)

end Levels

namespace Book

/-- The levels of one side as the book will hold them. -/
def intake (b : Book) (side : Side) (levels : List Level) : Except SnapshotFault (List Level) :=
  if b.options.verify then (Levels.check side levels).map fun _ => levels
  else .ok (Levels.arrange side levels)

/-- The best bid stands below the best ask. -/
def checkUncrossed (bids asks : List Level) : Except SnapshotFault Unit :=
  match bids.head?, asks.head? with
  | some bid, some ask =>
    if ask.price ≤ bid.price then .error (.crossed bid.price ask.price) else .ok ()
  | _, _ => .ok ()

/-- Both sides as the book will hold them; bids are looked at first. -/
def intakeSides (b : Book) (bids asks : List Level) :
    Except SnapshotFault (List Level × List Level) := do
  let bids ← b.intake .bid bids
  let asks ← b.intake .ask asks
  if b.options.verify then checkUncrossed bids asks
  return (bids, asks)

/-- Replaces both sides; a refused snapshot changes nothing. -/
def restore (b : Book) (bids asks : List Level) (id : Int) (pool : Pool) (now : Instant) :
    Except BookError (Book × Pool) :=
  match b.intakeSides bids asks with
  | .error fault => .error (.invalidSnapshot fault.message)
  | .ok (bids, asks) =>
    let (bids, pool) := b.bids.refill bids pool now
    let (asks, pool) := b.asks.refill asks pool now
    .ok ({ b with
      bids, asks, lastId := id, restored := true, invalidation := none }, pool)

end Book

end MarketDepth
