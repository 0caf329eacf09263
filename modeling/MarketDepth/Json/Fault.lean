/-
MarketDepth/Json/Fault.lean

The three ways in which a text is not the JSON that was asked for.
-/

namespace MarketDepth.Json

inductive Fault
  /-- It is no JSON. -/
  | malformed
  /-- It is JSON, but a value has the wrong type, is out of bounds, is missing or comes twice. -/
  | mistyped
  /-- It ends inside a value. -/
  | truncated
deriving DecidableEq, Repr

end MarketDepth.Json
