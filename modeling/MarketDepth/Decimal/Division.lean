/-
MarketDepth/Decimal/Division.lean

Quotients, digit block by digit block.

Long division starts from the whole quotient of the mantissas at the
difference of the scales and brings down up to nine more digits at a time,
as many as keep the quotient below `2 ^ 96` and its scale within 28 places.
When no further digit fits, the last one is rounded, a half going to the even
neighbour.  A quotient that came out in the first blocks keeps the scale it
reached; one that left a remainder on the way has the zeros at the end of its
fraction dropped, in blocks of eight, four, two and one.

`div?` answers `none` where there is no quotient; `div` raises an error that
tells a zero divisor from a quotient out of range.
-/
import MarketDepth.Decimal.Arithmetic

namespace MarketDepth

namespace Decimal

/-- A quotient under way: the digits so far, what is left of the dividend, and
how many places can still be brought down; the scale is 28 less those. -/
structure LongDivision where
  digits : Nat
  remainder : Nat
  room : Nat

namespace LongDivision

def scale (st : LongDivision) : Int := 28 - st.room

/-- The most digits, at most `k`, that can follow `q` below `2 ^ 96`. -/
def widest (q : Nat) : Nat → Nat
  | 0 => 0
  | k + 1 => if q * tenPow (k + 1) < limit then k + 1 else widest q k

/-- How many digits to bring down next; none when the quotient is complete or full. -/
def blockSize (st : LongDivision) : Nat :=
  if st.remainder = 0 then min 9 (st.room - 28) else widest st.digits (min 9 st.room)

theorem widest_le (q k : Nat) : widest q k ≤ k := by
  induction k with
  | zero => simp [widest]
  | succ k ih => unfold widest; split <;> omega

theorem blockSize_le_room (st : LongDivision) : st.blockSize ≤ st.room := by
  have := widest_le st.digits (min 9 st.room)
  unfold blockSize
  split <;> omega

/-- A finished quotient and its scale. -/
abbrev Result := Nat × Nat

/-- One digit less at the end.  What was left over counts as half a unit of
that digit, so that it breaks a tie and does nothing else. -/
def dropDigit (q : Nat) (leftOver : Bool) : Nat :=
  (roundHalfEven (2 * q + leftOver.toNat) 20).toNat

/-- Takes a quotient of at least `2 ^ 96` back by one place, if it has one. -/
def narrow (q : Nat) (leftOver : Bool) (s : Int) : Option Result :=
  if 1 ≤ s then some (dropDigit q leftOver, (s - 1).toNat) else none

/-- Rounds the last digit on what is left of the dividend. -/
def roundLast (divisor : Nat) (st : LongDivision) : Option Result :=
  let q := (roundHalfEven (st.digits * divisor + st.remainder) divisor).toNat
  if st.scale < 0 then none
  else if q < limit then some (q, st.scale.toNat)
  else narrow q false st.scale

/-- Brings down blocks of digits until none is left to bring down. -/
def run (divisor : Nat) (st : LongDivision) : Option Result :=
  let k := st.blockSize
  if _ : k = 0 then
    if st.remainder = 0 then some (st.digits, st.scale.toNat) else roundLast divisor st
  else if st.remainder ≠ 0 ∧ k < 9 ∧ st.scale + k < 0 then none
  else
    let q := st.digits * tenPow k
    let r := st.remainder * tenPow k
    let next : LongDivision := ⟨q + r / divisor, r % divisor, st.room - k⟩
    if limit ≤ q then none
    else if limit ≤ next.digits then narrow next.digits (next.remainder ≠ 0) next.scale
    else run divisor next
termination_by st.room
decreasing_by
  have := st.blockSize_le_room
  omega

/-- Drops `n` places that are all zeros. -/
def dropBlock (n : Nat) (x : Result) : Result :=
  if n ≤ x.2 ∧ x.1 % tenPow n = 0 then (x.1 / tenPow n, x.2 - n) else x

/-- Drops eight places that are all zeros, provided the last 32 bits are clear. -/
def dropEight (x : Result) : Result := if x.1 % twoPow 32 = 0 then dropBlock 8 x else x

/-- Drops zeros at the end of the fraction block by block.  Within 28 places
there are at most three blocks of eight. -/
def trim (x : Result) : Result :=
  dropBlock 1 (dropBlock 2 (dropBlock 4 (dropEight (dropEight (dropEight x)))))

/-- The first step: the whole quotient at the difference `s` of the scales. -/
def start (n d : Nat) (s : Int) : LongDivision := ⟨n / d, n % d, (28 - s).toNat⟩

end LongDivision

open LongDivision in
/-- The quotient, `none` for a zero divisor or a result out of range. -/
def div? (a b : Decimal) : Option Decimal :=
  if b.IsZero then none
  else if a.IsZero then some zero
  else
    let divisor := b.mantissa.natAbs
    let st := start a.mantissa.natAbs divisor (a.scale - b.scale)
    (run divisor st).bind fun x =>
      let y := if st.remainder = 0 then x else trim x
      of? (a.mantissa.sign * b.mantissa.sign * y.1) y.2

/-- The quotient, or why there is none. -/
def div (a b : Decimal) : Except OutOfRange Decimal :=
  if b.IsZero then .error .divisionByZero
  else
    match div? a b with
    | some d => .ok d
    | none => .error .division

theorem div_eq_ok_iff {a b d : Decimal} : a.div b = .ok d ↔ a.div? b = some d := by
  unfold div
  split
  · next hzero =>
    rw [div?, if_pos hzero]
    exact ⟨fun h => (nomatch h), fun h => (nomatch h)⟩
  · cases div? a b with
    | none => exact ⟨fun h => (nomatch h), fun h => (nomatch h)⟩
    | some d' => rw [Except.ok.injEq, Option.some.injEq]

end Decimal

end MarketDepth
