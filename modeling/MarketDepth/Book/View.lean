/-
MarketDepth/Book/View.lean

A copy of a book for those who only read it.
-/
import MarketDepth.Book.Basic
import MarketDepth.Simulation

namespace MarketDepth

structure View where
  key : Key
  bids : List Level
  asks : List Level
  lastId : Int
  restored : Bool
  verify : Bool
deriving DecidableEq

/-- The book as it is now. -/
def Book.view (b : Book) : View :=
  ⟨b.key, b.bids.levels, b.asks.levels, b.lastId, b.restored, b.options.verify⟩

namespace View

def levels (v : View) : Side → List Level
  | .bid => v.bids
  | .ask => v.asks

def bestBid (v : View) : Option Decimal := v.bids.head?.map (·.price)
def bestAsk (v : View) : Option Decimal := v.asks.head?.map (·.price)

/-- What a market order would do to the book that was copied. -/
def simulate (v : View) (amount : Decimal) (buy : Bool) : Except Simulation.Failure Simulation :=
  Simulation.ofLevels (v.levels (.consumedBy buy)) amount

end View

end MarketDepth
