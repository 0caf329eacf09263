/-
MarketDepth/Book/Figures.lean

Figures that sum up a book: its best prices, the middle and the distance
between them, and how its amounts lean to one side.
-/
import MarketDepth.Book.Basic
import MarketDepth.Simulation

namespace MarketDepth.Book

def bestBid (b : Book) : Option Decimal := b.bids.best?.map (·.price)
def bestAsk (b : Book) : Option Decimal := b.asks.best?.map (·.price)

/-- Half the sum of the best prices, if the sum is in range. -/
def midPrice (b : Book) : Option Decimal :=
  match b.bestBid, b.bestAsk with
  | some bid, some ask => (bid.add? ask).bind (·.div? .two)
  | _, _ => none

/-- The best ask less the best bid. -/
def spread (b : Book) : Except Decimal.OutOfRange (Option Decimal) :=
  match b.bestBid, b.bestAsk with
  | some bid, some ask => some <$> ask.sub bid
  | _, _ => .ok none

/-- The spread in percent of the best ask. -/
def spreadPercent (b : Book) : Except Decimal.OutOfRange (Option Decimal) :=
  match b.bestAsk with
  | none => .ok none
  | some ask => b.spread.map fun spread =>
    spread.bind fun s => (s.div? ask).bind (·.mul? .hundred)

/-- The difference of the amounts on the two sides over their sum. -/
def imbalance (b : Book) : Option Decimal :=
  let bid := b.bids.totals.amount
  let ask := b.asks.totals.amount
  match bid.sub? ask, bid.add? ask with
  | some difference, some sum => difference.div? sum
  | _, _ => none

/-- What a market order would do to the book. -/
def simulate (b : Book) (amount : Decimal) (buy : Bool) : Except Simulation.Failure Simulation :=
  Simulation.ofLevels (b.ladder (.consumedBy buy)).levels amount

end MarketDepth.Book
