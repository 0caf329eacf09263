/-
MarketDepth/Decimal/Arithmetic.lean

Sums, differences and products.

Each comes in three forms.  `add?` answers `none` when the result is out of
range; `addSat` answers the nearest bound instead; `add` raises the error
`OutOfRange`, which names the operation.  The result carries the larger scale
of the two operands (for a product the sum of their scales), less whatever
places did not fit.  A zero operand is passed over: the other one comes back
with its own scale.
-/
import MarketDepth.Decimal.Rounding

namespace MarketDepth

namespace Decimal

/-- An arithmetic operation without a result that a decimal can hold. -/
inductive OutOfRange
  | addition
  | subtraction
  | division
  | divisionByZero
deriving DecidableEq, Repr

def OutOfRange.message : OutOfRange → String
  | addition => "Addition overflowed"
  | subtraction => "Subtraction overflowed"
  | division => "Division overflowed"
  | divisionByZero => "Division by zero"

/-! ### Checked -/

/-- The mantissa at a scale at least as large as the decimal's own. -/
def mantissaAt (d : Decimal) (s : Nat) : Int := d.mantissa * tenPow (s - d.scale)

def add? (a b : Decimal) : Option Decimal :=
  if a.IsZero then some b
  else if b.IsZero then some a
  else
    let s := max a.scale b.scale
    nearest? (a.mantissaAt s + b.mantissaAt s) s

def sub? (a b : Decimal) : Option Decimal := add? a b.neg

/-- A product below `2 ^ 64` at 48 or more places is less than half of the last place. -/
def Vanishes (a b : Decimal) : Prop :=
  a.mantissa.natAbs < twoPow 32 ∧ b.mantissa.natAbs < twoPow 32 ∧ 47 < a.scale + b.scale

instance (a b : Decimal) : Decidable (Vanishes a b) := inferInstanceAs (Decidable (_ ∧ _))

def mul? (a b : Decimal) : Option Decimal :=
  if a.IsZero ∨ b.IsZero ∨ Vanishes a b then some zero
  else nearest? (a.mantissa * b.mantissa) (a.scale + b.scale)

/-! ### Saturating -/

/-- The bound on the side that the sign of `m` points to. -/
def bound (m : Int) : Decimal := if m < 0 then least else greatest

def addSat (a b : Decimal) : Decimal := (add? a b).getD (bound b.mantissa)

def mulSat (a b : Decimal) : Decimal := (mul? a b).getD (bound (a.mantissa * b.mantissa))

/-! ### Raising -/

def add (a b : Decimal) : Except OutOfRange Decimal :=
  match add? a b with
  | some d => .ok d
  | none => .error .addition

def sub (a b : Decimal) : Except OutOfRange Decimal :=
  match sub? a b with
  | some d => .ok d
  | none => .error .subtraction

end Decimal

end MarketDepth
