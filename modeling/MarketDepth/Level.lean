/-
MarketDepth/Level.lean

A price level: how much rests at a price, and the venue's number for it where
the venue numbers its levels.
-/
import MarketDepth.Decimal.Arithmetic

namespace MarketDepth

structure Level where
  price : Decimal
  amount : Decimal
  id : Option Int
deriving DecidableEq

namespace Level

/-- The contents of a node that no level has been written to. -/
def blank : Level := ⟨.zero, .zero, none⟩

/-- A node's contents after `level` was written over what it held. -/
def overwrite (node level : Level) : Level :=
  { node with price := level.price, amount := level.amount, id := level.id }

@[simp] theorem overwrite_eq (node level : Level) : node.overwrite level = level := rfl

/-- Price times amount, within the range of decimals. -/
def value (l : Level) : Decimal := l.price.mulSat l.amount

/-- The price and the amount are positive. -/
def Positive (l : Level) : Prop := .zero < l.price ∧ .zero < l.amount

instance (l : Level) : Decidable l.Positive := inferInstanceAs (Decidable (_ ∧ _))

end Level

/-- What rests on one side of a book altogether. -/
structure Totals where
  amount : Decimal
  value : Decimal
deriving DecidableEq

namespace Totals

/-- Sums of amounts and of values, both within the range of decimals. -/
def ofLevels (levels : List Level) : Totals :=
  levels.foldl (fun t l => ⟨t.amount.addSat l.amount, t.value.addSat l.value⟩) ⟨.zero, .zero⟩

end Totals

end MarketDepth
