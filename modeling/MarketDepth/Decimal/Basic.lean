/-
MarketDepth/Decimal/Basic.lean

Decimal numbers with a fixed budget of digits: an integer below `2 ^ 96` in
size over a power of ten with at most 28 places.

The same value can be written at several scales (`1.5` and `1.50`).  Which
one a book holds is visible in its output, so a decimal keeps its scale and
ordinary equality tells the two apart.  Prices are compared by value, and for
that every decimal is read as a whole number of `10 ^ -28`: this is `units`,
the view through which order and equality of value are stated.  `a ≈ b` says
that two decimals have the same value.
-/
import MarketDepth.Power

namespace MarketDepth

/-- Mantissas stay below this number, `2 ^ 96`. -/
abbrev Decimal.limit : Nat := 0x1000000000000000000000000

/-- A decimal number, `mantissa / 10 ^ scale`. -/
structure Decimal where
  mantissa : Int
  scale : Nat
  mantissa_lt : mantissa.natAbs < Decimal.limit
  scale_le : scale ≤ 28
deriving DecidableEq

namespace Decimal

/-- The decimal with a given mantissa and scale, if it is within the budget. -/
def of? (m : Int) (s : Nat) : Option Decimal :=
  if h : m.natAbs < limit ∧ s ≤ 28 then some ⟨m, s, h.1, h.2⟩ else none

/-- What is within the budget is found. -/
theorem of?_self (d : Decimal) : of? d.mantissa d.scale = some d :=
  dif_pos ⟨d.mantissa_lt, d.scale_le⟩

/-- A whole number small enough for the mantissa. -/
def ofNat (n : Nat) (h : n < limit := by decide) : Decimal :=
  ⟨n, 0, h, by decide⟩

def zero : Decimal := ofNat 0
def two : Decimal := ofNat 2
def hundred : Decimal := ofNat 100

/-- The largest decimal. -/
def greatest : Decimal := ofNat (limit - 1)

instance : Inhabited Decimal := ⟨zero⟩

/-! ### Value and order -/

/-- The value as a whole number of `10 ^ -28`. -/
def units (d : Decimal) : Int := d.mantissa * tenPow (28 - d.scale)

instance : LT Decimal := ⟨fun a b => a.units < b.units⟩
instance : LE Decimal := ⟨fun a b => a.units ≤ b.units⟩
instance : Ord Decimal := ⟨fun a b => compare a.units b.units⟩

instance (a b : Decimal) : Decidable (a < b) := inferInstanceAs (Decidable (a.units < b.units))
instance (a b : Decimal) : Decidable (a ≤ b) := inferInstanceAs (Decidable (a.units ≤ b.units))

/-- Same value, at whatever scales. -/
instance : Setoid Decimal where
  r a b := a.units = b.units
  iseqv := ⟨fun _ => rfl, fun h => h.symm, fun h₁ h₂ => h₁.trans h₂⟩

instance (a b : Decimal) : Decidable (a ≈ b) := inferInstanceAs (Decidable (a.units = b.units))

theorem lt_iff {a b : Decimal} : a < b ↔ a.units < b.units := Iff.rfl
theorem le_iff {a b : Decimal} : a ≤ b ↔ a.units ≤ b.units := Iff.rfl
theorem equiv_iff {a b : Decimal} : a ≈ b ↔ a.units = b.units := Iff.rfl

@[simp] theorem units_zero : zero.units = 0 := rfl

/-- The smaller of two decimals; of two with the same value the first. -/
instance : Min Decimal := ⟨fun a b => if b < a then b else a⟩

/-! ### Sign -/

def IsZero (d : Decimal) : Prop := d.mantissa = 0

instance (d : Decimal) : Decidable d.IsZero := inferInstanceAs (Decidable (d.mantissa = 0))

theorem isZero_iff_units {d : Decimal} : d.IsZero ↔ d.units = 0 := by
  have h : (tenPow (28 - d.scale) : Int) ≠ 0 := by
    have := tenPow_pos (28 - d.scale)
    omega
  simp only [IsZero, units, Int.mul_eq_zero, h, or_false]

def neg (d : Decimal) : Decimal :=
  ⟨-d.mantissa, d.scale, by rw [Int.natAbs_neg]; exact d.mantissa_lt, d.scale_le⟩

/-- The smallest decimal. -/
def least : Decimal := greatest.neg

def abs (d : Decimal) : Decimal :=
  ⟨d.mantissa.natAbs, d.scale, by rw [Int.natAbs_natCast]; exact d.mantissa_lt, d.scale_le⟩

/-! ### Normal form -/

/-- Drops the zeros at the end of the fraction, one place after the other. -/
def dropZeros (m : Int) : Nat → Int × Nat
  | 0 => (m, 0)
  | s + 1 => if m % 10 = 0 then dropZeros (m / 10) s else (m, s + 1)

theorem dropZeros_natAbs_le (m : Int) (s : Nat) : (dropZeros m s).1.natAbs ≤ m.natAbs := by
  induction s generalizing m with
  | zero => simp [dropZeros]
  | succ s ih =>
    unfold dropZeros
    split
    · have := ih (m / 10)
      omega
    · simp

theorem dropZeros_scale_le (m : Int) (s : Nat) : (dropZeros m s).2 ≤ s := by
  induction s generalizing m with
  | zero => simp [dropZeros]
  | succ s ih =>
    unfold dropZeros
    split
    · have := ih (m / 10)
      omega
    · simp

/-- The same value with no zero at the end of its fraction. -/
def normalize (d : Decimal) : Decimal :=
  ⟨(dropZeros d.mantissa d.scale).1, (dropZeros d.mantissa d.scale).2,
    Nat.lt_of_le_of_lt (dropZeros_natAbs_le _ _) d.mantissa_lt,
    Nat.le_trans (dropZeros_scale_le _ _) d.scale_le⟩

end Decimal

end MarketDepth
