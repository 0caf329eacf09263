/-
MarketDepth/Json/Decode.lean

Reading the values that are written in `Json/Encode`.

Names are taken as they stand: nothing is normalised here, and sides and
segments have one spelling each.
-/
import MarketDepth.Decimal.Reader
import MarketDepth.Instrument
import MarketDepth.Json.Record
import MarketDepth.Level
import MarketDepth.Side

namespace MarketDepth

open Json (Member Reader)

/-! ### Decimals -/

/-- A number in JSON text as a decimal.  A floating-point number counts as its shortest text. -/
def Decimal.ofNumeral? : Json.Numeral → Option Decimal
  | .whole n => ofInt? n
  | .binary negative x => read? (if negative then '-' :: x.toChars else x.toChars)

/-- A decimal, given as text or as a number. -/
def Decimal.reader : Reader Decimal := do
  let c ← Reader.require
  if c = '"' then
    Reader.advance
    match ofText? (← Reader.stringRest) with
    | some d => return d
    | none => throw .mistyped
  else if c = '-' ∨ c.isDigit then
    match ofNumeral? (← Json.Numeral.read) with
    | some d => return d
    | none => throw .mistyped
  else Reader.refuse c

/-- Numbers of levels and messages have 64 bits with a sign. -/
def idReader : Reader Int := Reader.integer (-twoPow 63) (twoPow 63 - 1)

/-! ### Slots -/

namespace Json

/-- A member whose slot is empty until it is read. -/
def Member.slot (name : String) (required : Bool) (get : σ → Option α) (set : σ → α → σ)
    (r : Reader α) : Member σ where
  name
  required
  isFilled s := (get s).isSome
  read s := return set s (← r)

/-- The contents of a slot that must be filled. -/
def filled (slot : Option α) : Reader α :=
  match slot with
  | some a => pure a
  | none => throw .mistyped

end Json

/-! ### Levels -/

namespace Level

structure Slots where
  price : Option Decimal := none
  amount : Option Decimal := none
  id : Option (Option Int) := none

def members : List (Member Slots) := [
  .slot "price" true Slots.price (fun s d => { s with price := some d }) Decimal.reader,
  .slot "amount" true Slots.amount (fun s d => { s with amount := some d }) Decimal.reader,
  .slot "id" false Slots.id (fun s i => { s with id := some i }) (Reader.nullable idReader)]

def reader : Reader Level := do
  let s ← Reader.record members {}
  return ⟨← Json.filled s.price, ← Json.filled s.amount, s.id.join⟩

end Level

/-! ### Keys -/

def Side.reader : Reader Side := Reader.choice [(bid.name, bid), (ask.name, ask)]

def Segment.reader : Reader Segment := Reader.choice (all.map fun a => (a.name, a))

namespace Pair

structure Slots where
  base : Option String := none
  quote : Option String := none

def members : List (Member Slots) := [
  .slot "base" true Slots.base (fun s t => { s with base := some t }) Reader.string,
  .slot "quote" true Slots.quote (fun s t => { s with quote := some t }) Reader.string]

def reader : Reader Pair := do
  let s ← Reader.record members {}
  return ⟨← Json.filled s.base, ← Json.filled s.quote⟩

end Pair

namespace Key

structure Slots where
  exchange : Option String := none
  pair : Option Pair := none
  segment : Option Segment := none

def members : List (Member Slots) := [
  .slot "exchange" true Slots.exchange (fun s t => { s with exchange := some t }) Reader.string,
  .slot "pair" true Slots.pair (fun s p => { s with pair := some p }) Pair.reader,
  .slot "asset" true Slots.segment (fun s a => { s with segment := some a }) Segment.reader]

def reader : Reader Key := do
  let s ← Reader.record members {}
  return ⟨← Json.filled s.exchange, ← Json.filled s.pair, ← Json.filled s.segment⟩

end Key

end MarketDepth
