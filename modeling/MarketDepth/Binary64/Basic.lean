/-
MarketDepth/Binary64/Basic.lean

Non-negative binary floating-point numbers of 64 bits, in exact arithmetic.

A number is a whole mantissa below `2 ^ 53` times a power of two no smaller
than `2 ^ -1074`; when the power is above that, the mantissa is at least
`2 ^ 52`.  `nearest?` is the one rounding step: it takes an exact fraction to
the nearest number, a half going to the even mantissa, and answers `none` at
`2 ^ 1024` and beyond.  Products and quotients are exact fractions, rounded.
-/
import MarketDepth.Power
import MarketDepth.Rounding

namespace MarketDepth

/-- `mantissa * 2 ^ exponent`. -/
structure Binary64 where
  mantissa : Nat
  exponent : Int
deriving DecidableEq

namespace Binary64

def zero : Binary64 := ⟨0, -1074⟩

/-- Numerator and denominator of `(n / d) * 2 ^ e`. -/
def scaleFraction (n d : Nat) : Int → Nat × Nat
  | .ofNat e => (n * twoPow e, d)
  | .negSucc e => (n, d * twoPow (e + 1))

/-- The number as a fraction. -/
def toFraction (x : Binary64) : Nat × Nat := scaleFraction x.mantissa 1 x.exponent

/-- The exponent at which `n / d` has a mantissa of 53 bits, but at least the smallest one. -/
def exponentOf (n d : Nat) : Int :=
  let e : Int := (n.log2 : Int) - d.log2
  let (a, b) := scaleFraction n d (-e)
  max (-1074) (if b ≤ a then e - 52 else e - 53)

/-- The number nearest to the fraction `n / d`, if it is in range. -/
def nearest? (n d : Nat) : Option Binary64 :=
  if n = 0 then some zero
  else
    let e := exponentOf n d
    let (a, b) := scaleFraction n d (-e)
    let m := (roundHalfEven a b).toNat
    let x : Binary64 := if m = twoPow 53 then ⟨twoPow 52, e + 1⟩ else ⟨m, e⟩
    if 971 < x.exponent then none else some x

def mul? (x y : Binary64) : Option Binary64 :=
  let (a, b) := x.toFraction
  let (c, d) := y.toFraction
  nearest? (a * c) (b * d)

def div? (x y : Binary64) : Option Binary64 :=
  let (a, b) := x.toFraction
  let (c, d) := y.toFraction
  nearest? (a * d) (b * c)

/-- The number nearest to a power of ten.  It is in range up to `10 ^ 308`. -/
def ofTenPow (k : Nat) : Binary64 := (nearest? (tenPow k) 1).getD zero

/-! ### Significand and power of ten -/

/-- `x / 10 ^ k`, a power beyond 308 in steps of 308. -/
def divTenPow (x : Binary64) (k : Nat) : Option Binary64 :=
  if k ≤ 308 then x.div? (ofTenPow k)
  else if x.mantissa = 0 then some x
  else (x.div? (ofTenPow 308)).bind fun y => divTenPow y (k - 308)
termination_by k

/-- The number written as `significand * 10 ^ e`, computed with a rounding at
each step: of the significand, of the power of ten, and of their product or
quotient.  It is `none` when the number is out of range. -/
def ofScientific? (significand : Nat) (e : Int) : Option Binary64 :=
  (nearest? significand 1).bind fun x =>
    match e with
    | .ofNat k =>
      if k ≤ 308 then x.mul? (ofTenPow k) else if x.mantissa = 0 then some x else none
    | .negSucc k => divTenPow x (k + 1)

end Binary64

end MarketDepth
