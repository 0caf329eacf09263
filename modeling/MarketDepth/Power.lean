/-
MarketDepth/Power.lean

Powers of two and of ten: the sizes of machine words, and the steps between
the scales of decimals.
-/

namespace MarketDepth

/-- Two to the power of `k`. -/
def twoPow (k : Nat) : Nat := Nat.pow 2 k

/-- Ten to the power of `k`. -/
def tenPow (k : Nat) : Nat := Nat.pow 10 k

@[simp] theorem tenPow_zero : tenPow 0 = 1 := rfl

theorem tenPow_succ (k : Nat) : tenPow (k + 1) = tenPow k * 10 := rfl

theorem tenPow_pos (k : Nat) : 0 < tenPow k := Nat.pow_pos (by decide)

end MarketDepth
