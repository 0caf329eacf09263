/-
MarketDepth/Text/Ranges.lean

Properties of characters given as tables of ranges of code points.
-/

namespace MarketDepth.Text

/-- Ranges of code points, each with its first and last one. -/
abbrev Ranges := List (Nat × Nat)

def Ranges.contains (rs : Ranges) (c : Char) : Bool :=
  rs.any fun r => r.1 ≤ c.toNat && c.toNat ≤ r.2

end MarketDepth.Text
