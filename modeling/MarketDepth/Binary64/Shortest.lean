/-
MarketDepth/Binary64/Shortest.lean

The shortest decimal text of a binary number.

The text has the fewest digits that read back as the number, and of those the
digits nearest to it, the greater ones if two are equally near; it never has an
exponent.  Seventeen digits always suffice.  For each count of digits the two
neighbours of the number on that decimal grid are tried, since the first grid
with a point in the number's rounding interval has one of the two in it.
-/
import MarketDepth.Binary64.Basic

namespace MarketDepth

namespace Binary64

/-- `m * 10 ^ e`. -/
structure DecimalForm where
  digits : Nat
  exponent : Int

/-- Compares `a / b` with `c / d`. -/
def fractionLt (x y : Nat × Nat) : Bool := x.1 * y.2 < y.1 * x.2

/-- The fractions that read back as a number lie between these two; the ends
do too if the mantissa is even. -/
def interval (x : Binary64) : (Nat × Nat) × (Nat × Nat) :=
  let m := x.mantissa
  let low := if m = twoPow 52 ∧ -1074 < x.exponent
    then scaleFraction (4 * m - 1) 4 x.exponent
    else scaleFraction (2 * m - 1) 2 x.exponent
  (low, scaleFraction (2 * m + 1) 2 x.exponent)

/-- The fraction reads back as the number. -/
def readsBack (x : Binary64) (f : Nat × Nat) : Bool :=
  let (low, high) := x.interval
  if x.mantissa % 2 = 0 then !fractionLt f low && !fractionLt high f
  else fractionLt low f && fractionLt f high

/-- The value of `n * 10 ^ e` as a fraction. -/
def gridPoint (n : Nat) : Int → Nat × Nat
  | .ofNat e => (n * tenPow e, 1)
  | .negSucc e => (n, tenPow (e + 1))

/-- The number of digits in front of the point of `a / b`, or minus the number
of zeros behind it. -/
def magnitude (a b : Nat) : Int :=
  if b ≤ a then ((Nat.toDigits 10 (a / b)).length : Int)
  else
    let k := (Nat.toDigits 10 ((b - 1) / a)).length
    1 - (k : Int)

/-- The neighbours of the number on the grid of `10 ^ e`. -/
def neighbours (x : Binary64) (e : Int) : Nat × Nat :=
  let (a, b) := x.toFraction
  let (c, d) := gridPoint 1 e
  let n := a * d / (b * c)
  (n, n + 1)

/-- Whether the lower neighbour is nearer than the upper one. -/
def lowerIsNearer (x : Binary64) (n : Nat) (e : Int) : Bool :=
  let (c, d) := gridPoint (2 * n + 1) e
  fractionLt x.toFraction (c, 2 * d)

/-- The point on the grid of `10 ^ e` that reads back and is nearest, if there is one. -/
def onGrid? (x : Binary64) (e : Int) : Option DecimalForm :=
  let (n, n') := x.neighbours e
  match x.readsBack (gridPoint n e), x.readsBack (gridPoint n' e) with
  | true, true => some ⟨if x.lowerIsNearer n e then n else n', e⟩
  | true, false => some ⟨n, e⟩
  | false, true => some ⟨n', e⟩
  | false, false => none

/-- The shortest decimal form of a positive number.  The search starts one grid
above the first digit, where a number just below a power of ten is found. -/
def shortest (x : Binary64) : DecimalForm :=
  let (a, b) := x.toFraction
  let top := magnitude a b
  ((List.range 18).findSome? fun (i : Nat) => x.onGrid? (top - i)).getD ⟨0, 0⟩

/-- The decimal form without an exponent. -/
def DecimalForm.toChars (f : DecimalForm) : List Char :=
  let ds := Nat.toDigits 10 f.digits
  match f.exponent with
  | .ofNat e => if f.digits = 0 then ['0'] else ds ++ List.replicate e '0'
  | .negSucc e =>
    let ds := List.replicate (e + 2 - ds.length) '0' ++ ds
    ds.take (ds.length - (e + 1)) ++ '.' :: ds.drop (ds.length - (e + 1))

def toChars (x : Binary64) : List Char :=
  if x.mantissa = 0 then ['0'] else x.shortest.toChars

end Binary64

end MarketDepth
