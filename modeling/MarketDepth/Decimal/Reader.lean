/-
MarketDepth/Decimal/Reader.lean

Reading a decimal from text.

`readPlain?` takes an optional sign and digits with at most one point among
them; underscores may separate digits after the first one.  Once the budget of
a decimal is used up, that is after 28 places, or when one more digit of the
fraction would not fit, the next digit rounds (from five on up) and the rest
only has to be well formed.  Digits of the whole part are never rounded away.

`read?` also takes the form with an exponent.
-/
import MarketDepth.Decimal.Arithmetic
import MarketDepth.Text.Digit

namespace MarketDepth

namespace Decimal

open Text (digit?)

/-- What may follow once no more digits are taken. -/
def isTail (cs : List Char) : Bool := cs.all fun c => (digit? c).isSome || c == '_'

/-- The unsigned number read so far: all its digits, and how many stand behind the point. -/
structure Scan where
  mantissa : Nat
  places : Nat

/-- Rounds on the next digit; if the mantissa overflows, one place is given up. -/
def Scan.round (x : Scan) (next : Nat) : Option Scan :=
  if next < 5 then some x
  else if x.mantissa + 1 < limit then some ⟨x.mantissa + 1, x.places⟩
  else if x.places = 0 then none
  else some ⟨(x.mantissa + 5) / 10, x.places - 1⟩

/-- Ends the number at `c`, the first character that is not taken. -/
def Scan.finish (x : Scan) (c : Char) (rest : List Char) : Option Scan :=
  if isTail (c :: rest) then x.round ((digit? c).getD 0) else none

/-- Reads on from `x`; `point` and `seen` say whether a point and a digit have been met. -/
def Scan.read (x : Scan) (point seen : Bool) : List Char → Option Scan
  | [] => if seen then some x else none
  | c :: rest =>
    if point ∧ x.places = 28 then x.finish c rest
    else
      match digit? c with
      | some d =>
        let m := x.mantissa * 10 + d
        if m < limit then Scan.read ⟨m, if point then x.places + 1 else x.places⟩ point true rest
        else if point then x.finish c rest
        else none
      | none =>
        if c = '.' ∧ point = false then Scan.read x true seen rest
        else if c = '_' ∧ seen then Scan.read x point seen rest
        else none

/-- The sign in front of a number, if there is one, and the rest. -/
def splitSign : List Char → Bool × List Char
  | '-' :: cs => (true, cs)
  | '+' :: cs => (false, cs)
  | cs => (false, cs)

/-- A number without an exponent. -/
def readPlain? (cs : List Char) : Option Decimal :=
  let (negative, digits) := splitSign cs
  (Scan.read ⟨0, 0⟩ false false digits).bind fun x =>
    of? (if negative then -x.mantissa else x.mantissa) x.places

/-! ### Exponents -/

/-- Digits only, at least one. -/
def readNat? (cs : List Char) : Option Nat :=
  if ¬cs.isEmpty ∧ cs.all Char.isDigit then some (Nat.ofDigitChars 10 cs 0) else none

/-- The size of an exponent, which may carry a plus sign. -/
def readExponent? : List Char → Option Nat
  | '+' :: cs => readNat? cs
  | cs => readNat? cs

/-- The same mantissa at another scale. -/
def withScale? (d : Decimal) (s : Nat) : Option Decimal := of? d.mantissa s

/-- `d * 10 ^ e`: the point moves right as far as there are places; beyond
that the product is written without trailing zeros behind the point. -/
def scaleUp? (d : Decimal) (e : Nat) : Option Decimal :=
  if e ≤ d.scale then d.withScale? (d.scale - e)
  else if d.IsZero then some zero
  else (nearest? (d.mantissa * tenPow e) d.scale).map normalize

/-- A number with an exponent of at most 28 either way. -/
def readScientific? (cs : List Char) : Option Decimal :=
  match cs.span fun c => c != 'e' && c != 'E' with
  | (_, []) => none
  | (base, _ :: '-' :: exponent) => do
    let d ← readPlain? base
    let e ← readExponent? exponent
    if e ≤ 28 then d.withScale? (d.scale + e) else none
  | (base, _ :: exponent) => do
    let d ← readPlain? base
    let e ← readExponent? exponent
    if e ≤ 28 then d.scaleUp? e else none

def read? (cs : List Char) : Option Decimal := readPlain? cs <|> readScientific? cs

def ofText? (s : String) : Option Decimal := read? s.toList

/-- A whole number, if it is within the budget. -/
def ofInt? (n : Int) : Option Decimal := of? n 0

end Decimal

end MarketDepth
