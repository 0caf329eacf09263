/-
MarketDepth/Json/Numeral.lean

Numbers in JSON text.

A numeral without a point and an exponent that fits 64 bits is a whole number.
Every other numeral is taken as a binary floating-point number.  Its digits
enter a significand of 64 bits until one more would not fit; the digits after
that count only as places in front of the point and not at all behind it.  A
numeral beyond the largest floating-point number is no number.
-/
import MarketDepth.Binary64.Shortest
import MarketDepth.Json.Fault
import MarketDepth.Text.Digit

namespace MarketDepth.Json

/-- A number read from text. -/
inductive Numeral
  | whole (n : Int)
  | binary (negative : Bool) (x : Binary64)

namespace Numeral

abbrev Read (α : Type) := Except Fault (α × List Char)

def significandLimit : Nat := twoPow 64

/-- Takes digits into a significand while they fit; tells how many did, and what comes next. -/
def takeDigits (significand : Nat) : List Char → Nat × Nat × List Char
  | [] => (significand, 0, [])
  | c :: rest =>
    match (Text.digit? c).map (significand * 10 + ·) with
    | some next =>
      if next < significandLimit then
        let (m, taken, rest) := takeDigits next rest
        (m, taken + 1, rest)
      else (significand, 0, c :: rest)
    | none => (significand, 0, c :: rest)

/-- The floating-point number `significand * 10 ^ exponent`. -/
def finish (negative : Bool) (significand : Nat) (exponent : Int) (rest : List Char) :
    Read Numeral :=
  match Binary64.ofScientific? significand exponent with
  | some x => .ok (.binary negative x, rest)
  | none => .error .malformed

def isExponentMark (c : Char) : Bool := c == 'e' || c == 'E'

/-- Exponents stay within 32 bits with a sign. -/
def exponentLimit : Nat := twoPow 31

def clampExponent (e : Int) : Int := max (-exponentLimit) (min e (exponentLimit - 1))

/-- The digits of an exponent, whose sign is known. -/
def readExponentDigits (negative : Bool) (significand : Nat) (exponent : Int) (negativeExp : Bool)
    (cs : List Char) : Read Numeral :=
  let (digits, rest) := cs.span Char.isDigit
  let e := Nat.ofDigitChars 10 digits 0
  if digits.isEmpty then .error (if cs.isEmpty then .truncated else .malformed)
  else if e < exponentLimit then
    finish negative significand
      (clampExponent (if negativeExp then exponent - e else exponent + e)) rest
  else if significand ≠ 0 ∧ negativeExp = false then .error .malformed
  else .ok (.binary negative .zero, rest)

/-- The exponent after its mark. -/
def readExponent (negative : Bool) (significand : Nat) (exponent : Int) (cs : List Char) :
    Read Numeral :=
  match cs with
  | '+' :: cs => readExponentDigits negative significand exponent false cs
  | '-' :: cs => readExponentDigits negative significand exponent true cs
  | cs => readExponentDigits negative significand exponent false cs

/-- An exponent if there is one. -/
def readOptionalExponent (negative : Bool) (significand : Nat) (exponent : Int) (cs : List Char) :
    Read Numeral :=
  match cs with
  | c :: rest =>
    if isExponentMark c then readExponent negative significand exponent rest
    else finish negative significand exponent (c :: rest)
  | [] => finish negative significand exponent []

/-- The digits behind the point, of which there is at least one. -/
def readFraction (negative : Bool) (significand : Nat) (exponent : Int) (cs : List Char) :
    Read Numeral :=
  match cs with
  | [] => .error .truncated
  | c :: _ =>
    if c.isDigit then
      let (m, taken, rest) := takeDigits significand cs
      readOptionalExponent negative m (exponent - taken) (rest.dropWhile Char.isDigit)
    else .error .malformed

/-- What follows the digits in front of the point; `dropped` of these are not in the significand. -/
def readTail (negative : Bool) (significand dropped : Nat) (cs : List Char) : Read Numeral :=
  match cs with
  | '.' :: rest => readFraction negative significand dropped rest
  | c :: rest =>
    if isExponentMark c then readExponent negative significand dropped rest
    else if dropped ≠ 0 then finish negative significand dropped (c :: rest)
    else whole? (c :: rest)
  | [] => if dropped ≠ 0 then finish negative significand dropped [] else whole? []
where
  /-- A whole number if it fits 64 bits; a negative zero is a floating-point number. -/
  whole? (rest : List Char) : Read Numeral :=
    if negative = false then .ok (.whole significand, rest)
    else if significand ≠ 0 ∧ significand ≤ twoPow 63 then .ok (.whole (-significand), rest)
    else finish true significand 0 rest

/-- The digits of a number after its sign. -/
def readUnsigned (negative : Bool) (cs : List Char) : Read Numeral :=
  match cs with
  | [] => .error .truncated
  | '0' :: rest =>
    if (rest.head?.any Char.isDigit) then .error .malformed else readTail negative 0 0 rest
  | c :: _ =>
    if c.isDigit then
      let (m, _, rest) := takeDigits 0 cs
      let (dropped, rest) := rest.span Char.isDigit
      readTail negative m dropped.length rest
    else .error .malformed

/-- A number, whose first character is a digit or a minus sign. -/
def read (cs : List Char) : Read Numeral :=
  match cs with
  | '-' :: rest => readUnsigned true rest
  | cs => readUnsigned false cs

end Numeral

end MarketDepth.Json
