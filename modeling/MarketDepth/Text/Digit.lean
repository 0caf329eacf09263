/-
MarketDepth/Text/Digit.lean

The values of digits.
-/

namespace MarketDepth.Text

/-- The value of a decimal digit. -/
def digit? (c : Char) : Option Nat :=
  if '0' ≤ c ∧ c ≤ '9' then some (c.toNat - '0'.toNat) else none

/-- The value of a hexadecimal digit; its letters may be of either case. -/
def hexDigit? (c : Char) : Option Nat :=
  if 'a' ≤ c ∧ c ≤ 'f' then some (c.toNat - 'a'.toNat + 10)
  else if 'A' ≤ c ∧ c ≤ 'F' then some (c.toNat - 'A'.toNat + 10)
  else digit? c

theorem digit?_isSome {c : Char} : (digit? c).isSome = c.isDigit := by
  simp only [digit?, Char.isDigit, Char.le_def]
  split <;> simp_all

end MarketDepth.Text
