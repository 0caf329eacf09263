/-
MarketDepth/Json/Encode.lean

The JSON form of the values that readers of a book are shown.
-/
import MarketDepth.Json.Value
import MarketDepth.Simulation

namespace MarketDepth

def Decimal.toJson (d : Decimal) : Json := .text d.toText

def Side.toJson (s : Side) : Json := .text s.name

def Segment.toJson (a : Segment) : Json := .text a.name

def Pair.toJson (p : Pair) : Json := .object [("base", .text p.base), ("quote", .text p.quote)]

def Key.toJson (k : Key) : Json :=
  .object [("exchange", .text k.exchange), ("pair", k.pair.toJson), ("asset", k.segment.toJson)]

/-- A level shows its number only if it has one. -/
def Level.toJson (l : Level) : Json :=
  .object ([("price", l.price.toJson), ("amount", l.amount.toJson)] ++
    (l.id.map fun id => ("id", Json.int id)).toList)

def Simulation.toJson (s : Simulation) : Json :=
  .object [
    ("status", .text s.status.name),
    ("amount_requested", s.requested.toJson),
    ("amount_filled", s.filled.toJson),
    ("fill_ratio", s.fillRatio.toJson),
    ("proceeds_or_cost", s.proceeds.toJson),
    ("average_price", .ofOption Decimal.toJson s.averagePrice),
    ("best_price", .ofOption Decimal.toJson s.bestPrice),
    ("worst_price", .ofOption Decimal.toJson s.worstPrice),
    ("price_impact_percent", s.impactPercent.toJson),
    ("remaining_levels", .ofNat s.remainingLevels)]

end MarketDepth
