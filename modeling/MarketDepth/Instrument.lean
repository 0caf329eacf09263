/-
MarketDepth/Instrument.lean

What a book is a book of: a pair of currencies, in a segment of the market, on
an exchange.

Pairs are kept in upper case and exchange names in lower case, both without
blanks around them, so that one book answers to every spelling of its key.
-/
import MarketDepth.Text.Blank
import MarketDepth.Text.Case.Lower
import MarketDepth.Text.Case.Upper

namespace MarketDepth

/-- Segment of the market. -/
inductive Segment
  | spot
  | margin
  | futures
  | perpetualSwap
  | options
deriving DecidableEq, Repr

namespace Segment

def name : Segment → String
  | spot => "spot"
  | margin => "margin"
  | futures => "futures"
  | perpetualSwap => "perpetual_swap"
  | options => "options"

def all : List Segment := [spot, margin, futures, perpetualSwap, options]

end Segment

/-- A pair of currencies. -/
structure Pair where
  base : String
  quote : String
deriving DecidableEq, Repr

namespace Pair

/-- The pair of two currencies, normalised. -/
def ofCurrencies (base quote : String) : Pair :=
  ⟨Text.toUpper (Text.trim base), Text.toUpper (Text.trim quote)⟩

def text (p : Pair) : String := p.base ++ "-" ++ p.quote

end Pair

/-- The name of a book. -/
structure Key where
  exchange : String
  pair : Pair
  segment : Segment
deriving DecidableEq, Repr

namespace Key

/-- The key with the exchange's name normalised. -/
def ofParts (exchange : String) (pair : Pair) (segment : Segment) : Key :=
  ⟨Text.toLower (Text.trim exchange), pair, segment⟩

def text (k : Key) : String := k.exchange ++ ":" ++ k.pair.text ++ ":" ++ k.segment.name

end Key

end MarketDepth
