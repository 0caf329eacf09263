/-
MarketDepth/Decimal/Rounding.lean

Fitting an exact result into the budget of a decimal.

An exact sum or product can have more than 28 places or a mantissa of
`2 ^ 96` and beyond.  `nearest?` keeps as many places as fit and rounds once,
straight from the exact value, a half going to the even neighbour; it fails
only when not even the whole part fits.
-/
import MarketDepth.Decimal.Basic
import MarketDepth.Rounding

namespace MarketDepth

namespace Decimal

/-- `m / 10 ^ s` at the most places, at most `p` of them, at which it fits. -/
def nearestAt? (m : Int) (s : Nat) : Nat → Option Decimal
  | 0 => of? (roundHalfEven m (tenPow s)) 0
  | p + 1 => of? (roundHalfEven m (tenPow (s - (p + 1)))) (p + 1) <|> nearestAt? m s p

/-- The exact value `m / 10 ^ s`, rounded once to the most places at which it fits. -/
def nearest? (m : Int) (s : Nat) : Option Decimal := nearestAt? m s (min s 28)

/-- A value within the budget is not rounded. -/
theorem nearest?_self (d : Decimal) : nearest? d.mantissa d.scale = some d := by
  have fits : min d.scale 28 = d.scale := Nat.min_eq_left d.scale_le
  rw [nearest?, fits]
  cases h : d.scale with
  | zero => rw [nearestAt?, tenPow_zero, roundHalfEven_one, ← h, of?_self]
  | succ s =>
    rw [nearestAt?, Nat.sub_self, tenPow_zero, roundHalfEven_one, ← h, of?_self]
    rfl

end Decimal

end MarketDepth
