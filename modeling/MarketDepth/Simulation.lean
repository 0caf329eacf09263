/-
MarketDepth/Simulation.lean

What a market order would do to one side of a book.

The order walks the levels from the best one down.  Of each it takes what is
still wanted, or all of it if that is less, and it stops when nothing is
wanted any more.  Proceeds are summed level by level in decimal arithmetic, so
they carry its rounding.  The walk reads the levels only.
-/
import MarketDepth.BookError
import MarketDepth.Decimal.Division
import MarketDepth.Level

namespace MarketDepth

/-- How far an order got. -/
inductive Fill
  | fullyFilled
  | partiallyFilled
  /-- There was nothing to take. -/
  | insufficientLiquidity
deriving DecidableEq, Repr

def Fill.name : Fill → String
  | fullyFilled => "fully_filled"
  | partiallyFilled => "partially_filled"
  | insufficientLiquidity => "insufficient_liquidity"

/-- The outcome of a simulated order. -/
structure Simulation where
  status : Fill
  requested : Decimal
  filled : Decimal
  /-- Filled over requested. -/
  fillRatio : Decimal
  /-- What is paid for a purchase, or received for a sale. -/
  proceeds : Decimal
  averagePrice : Option Decimal
  /-- The price of the first level taken from. -/
  bestPrice : Option Decimal
  /-- The price of the last level taken from. -/
  worstPrice : Option Decimal
  /-- The way from the best to the worst price, in percent of the best. -/
  impactPercent : Decimal
  /-- Levels that are not used up. -/
  remainingLevels : Nat
deriving DecidableEq

namespace Simulation

/-- Why a walk has no outcome. -/
inductive Failure
  | refused (e : BookError)
  | outOfRange (e : Decimal.OutOfRange)
deriving DecidableEq

/-- A walk under way. -/
structure Walk where
  remaining : Decimal
  proceeds : Decimal
  best : Option Decimal
  worst : Option Decimal
  exhausted : Nat

namespace Walk

def start (amount : Decimal) : Walk := ⟨amount, .zero, none, none, 0⟩

/-- The proceeds after taking `fill` at a price. -/
def collect? (w : Walk) (fill price : Decimal) : Option Decimal :=
  (fill.mul? price).bind w.proceeds.add?

/-- Takes what is wanted from one level. -/
def take (w : Walk) (l : Level) : Except Failure Walk :=
  let fill := min w.remaining l.amount
  match w.collect? fill l.price, w.remaining.sub fill with
  | none, _ => .error (.refused .overflow)
  | _, .error e => .error (.outOfRange e)
  | some proceeds, .ok remaining =>
    .ok {
      remaining, proceeds
      best := w.best.or (some l.price)
      worst := some l.price
      exhausted := w.exhausted + if fill ≈ l.amount then 1 else 0 }

/-- Takes from the levels in turn until nothing is wanted. -/
def run (w : Walk) : List Level → Except Failure Walk
  | [] => .ok w
  | l :: rest => if w.remaining.IsZero then .ok w else (w.take l).bind (run · rest)

end Walk

/-- The way from `best` to `worst` in percent of `best`; zero if it cannot be said. -/
def impact (best worst : Option Decimal) : Except Decimal.OutOfRange Decimal :=
  match best, worst with
  | some best, some worst => do
    let way ← worst.sub best
    return ((way.abs.div? best).bind (·.mul? .hundred)).getD .zero
  | _, _ => return .zero

/-- The outcome of a finished walk for `amount` over `total` levels. -/
def ofWalk (amount : Decimal) (total : Nat) (w : Walk) : Except Decimal.OutOfRange Simulation := do
  let filled ← amount.sub w.remaining
  let impactPercent ← impact w.best w.worst
  return {
    status :=
      if total = 0 then .insufficientLiquidity
      else if w.remaining.IsZero then .fullyFilled
      else .partiallyFilled
    requested := amount
    filled
    fillRatio := (filled.div? amount).getD .zero
    proceeds := w.proceeds
    averagePrice := w.proceeds.div? filled
    bestPrice := w.best
    worstPrice := w.worst
    impactPercent
    remainingLevels := total - w.exhausted }

/-- Walks the levels, best first, for a positive amount. -/
def ofLevels (levels : List Level) (amount : Decimal) : Except Failure Simulation :=
  if amount ≤ .zero then .error (.refused (.invalidAmount amount))
  else (Walk.start amount).run levels |>.bind fun w =>
    (ofWalk amount levels.length w).mapError .outOfRange

end Simulation

end MarketDepth
