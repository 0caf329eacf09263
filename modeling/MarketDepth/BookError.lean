/-
MarketDepth/BookError.lean

Why a request to a book is refused, and the sentence that says so.
-/
import MarketDepth.Decimal.Text
import MarketDepth.Instrument
import MarketDepth.Side
import MarketDepth.Text.Quoted

namespace MarketDepth

/-- What a word can be wanted for. -/
inductive Vocabulary
  | side
  | action
  | segment
deriving DecidableEq, Repr

def Vocabulary.name : Vocabulary → String
  | side => "side"
  | action => "update action"
  | segment => "asset class"

inductive BookError
  /-- No snapshot was ever loaded for the key. -/
  | notFound (key : Key)
  /-- The message does not follow the last one applied. -/
  | outOfSequence (expected actual : Int)
  /-- The venue's checksum is not that of the book. -/
  | integrity (expected computed : UInt32)
  /-- Too many messages are waiting for a snapshot. -/
  | tooManyHeld (limit : Nat)
  /-- A word has no meaning where it stands. -/
  | unknownWord (wanted : Vocabulary) (word : String)
  | invalidPair (word : String)
  /-- An amended level does not rest in the book. -/
  | levelNotFound (id : Int)
  /-- A snapshot is not a well-formed book. -/
  | invalidSnapshot (reason : String)
  /-- An order's amount is not positive. -/
  | invalidAmount (amount : Decimal)
  /-- An inserted or amended level has a price that is not positive or a negative amount. -/
  | invalidLevel (side : Side) (price amount : Decimal)
  /-- Walking the book left the range of decimals. -/
  | overflow
  /-- The book waits for a new snapshot. -/
  | invalidated (key : Key) (reason : String)
deriving DecidableEq

namespace BookError

def message : BookError → String
  | notFound key => "depth not found for " ++ key.text
  | outOfSequence expected actual =>
    s!"out of sequence: expected update {expected}, got {actual}"
  | integrity expected computed =>
    s!"book integrity check failed: venue checksum {expected}, computed {computed}"
  | tooManyHeld limit => s!"pre-sync buffer overflow: limit {limit}"
  | unknownWord wanted word => "unsupported " ++ wanted.name ++ ": " ++ Text.quoted word
  | invalidPair word => "invalid pair: " ++ Text.quoted word
  | levelNotFound id => s!"level id {id} not found"
  | invalidSnapshot reason => "invalid snapshot: " ++ reason
  | invalidAmount amount => "invalid amount: " ++ amount.toText
  | invalidLevel side price amount =>
    "invalid " ++ side.name ++ " level: price " ++ price.toText ++ ", amount " ++ amount.toText
  | overflow => "arithmetic overflow walking the book"
  | invalidated key reason => "depth for " ++ key.text ++ " invalidated: " ++ reason

end BookError

end MarketDepth
