/-
MarketDepth/Decimal/Text.lean

The written form of a decimal: a minus sign if it is negative, the whole part
with no leading zeros, and, at a scale above zero, a point and exactly as many
digits as the scale says.
-/
import MarketDepth.Decimal.Basic

namespace MarketDepth

namespace Decimal

/-- The digits of `n`, with zeros in front to make up `width`. -/
def paddedDigits (n width : Nat) : List Char :=
  let ds := Nat.toDigits 10 n
  List.replicate (width - ds.length) '0' ++ ds

def toChars (d : Decimal) : List Char :=
  let n := d.mantissa.natAbs
  let whole := Nat.toDigits 10 (n / tenPow d.scale)
  let sign := if d.mantissa < 0 then ['-'] else []
  if d.scale = 0 then sign ++ whole
  else sign ++ whole ++ '.' :: paddedDigits (n % tenPow d.scale) d.scale

def toText (d : Decimal) : String := String.ofList d.toChars

end Decimal

end MarketDepth
