/-
MarketDepth/Side.lean

The two sides of a book, and which of two prices stands nearer its top: among
bids the higher one, among asks the lower one.
-/
import MarketDepth.Decimal.Basic

namespace MarketDepth

inductive Side
  | bid
  | ask
deriving DecidableEq, Repr

namespace Side

def name : Side → String
  | bid => "bid"
  | ask => "ask"

/-- How the place of `a` compares with that of `b`; `lt` is nearer the top. -/
def compareAt : Side → Decimal → Decimal → Ordering
  | bid, a, b => compare b.units a.units
  | ask, a, b => compare a.units b.units

/-- `a` stands nearer the top of the book than `b`. -/
def Ahead : Side → Decimal → Decimal → Prop
  | bid, a, b => b < a
  | ask, a, b => a < b

instance : (s : Side) → (a b : Decimal) → Decidable (s.Ahead a b)
  | bid, a, b => inferInstanceAs (Decidable (b < a))
  | ask, a, b => inferInstanceAs (Decidable (a < b))

/-- The side that a market order consumes: buying takes asks, selling takes bids. -/
def consumedBy (buy : Bool) : Side := if buy then ask else bid

theorem compareAt_eq_lt_iff {s : Side} {a b : Decimal} :
    s.compareAt a b = .lt ↔ s.Ahead a b := by
  cases s <;> simp [compareAt, Ahead, Decimal.lt_iff, Int.compare_eq_lt]

end Side

end MarketDepth
