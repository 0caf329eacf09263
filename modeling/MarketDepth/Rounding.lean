/-
MarketDepth/Rounding.lean

Rounding an exact quotient to a whole number.

`roundHalfEven` takes the nearest whole number and, of two that are equally
near, the even one.  It is the only rounding that decimals and binary
floating-point numbers undergo.
-/

namespace MarketDepth

/-- `m / d` to the nearest whole number, a half to the even one. -/
def roundHalfEven (m : Int) (d : Nat) : Int :=
  let q := m / d
  let r := m % d
  if 2 * r < d then q else if (d : Int) < 2 * r then q + 1 else q + q % 2

/-- A whole number is not rounded. -/
theorem roundHalfEven_one (m : Int) : roundHalfEven m 1 = m := by
  have hquotient : m / ((1 : Nat) : Int) = m := Int.ediv_one m
  have hrest : m % ((1 : Nat) : Int) = 0 := Int.emod_one m
  unfold roundHalfEven
  dsimp only
  rw [hquotient, hrest, if_pos (by decide)]

end MarketDepth
