/-
MarketDepth/Text/Case/Basic.lean

Case mappings as tables.

Most letters map to one letter, and neighbours map alike: a run says that
every `step`-th code point from `first` to `last` maps to the code point as
far from `target` as it is from `first`.  The few letters that map to several
are listed one by one.
-/

namespace MarketDepth.Text

/-- Code points at equal steps that all map by the same distance. -/
structure CaseRun where
  first : Nat
  last : Nat
  step : Nat
  target : Nat

/-- The code point that `n` maps to, if it is in the run. -/
def CaseRun.map? (r : CaseRun) (n : Nat) : Option Nat :=
  if r.first ≤ n ∧ n ≤ r.last ∧ (n - r.first) % r.step = 0 then some (r.target + (n - r.first))
  else none

/-- A case mapping: the runs, and the code points that map to more than one. -/
structure CaseMap where
  runs : List CaseRun
  expansions : List (Nat × List Nat)

/-- The characters that stand for `c` in the other case; `c` itself if it has none. -/
def CaseMap.apply (m : CaseMap) (c : Char) : List Char :=
  match m.expansions.lookup c.toNat with
  | some cs => cs.map Char.ofNat
  | none => [Char.ofNat ((m.runs.findSome? (·.map? c.toNat)).getD c.toNat)]

end MarketDepth.Text
