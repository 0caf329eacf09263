/-
MarketDepth/Checksum.lean

The checksum of the top of a book.

It is taken over the best levels of both sides, bid and ask in turn, best
first; when one side has run out the other goes on alone.  A level is written
as its price and its amount, both in normal form, and all these numbers are
joined by colons.  The scale of a decimal, a level's number and levels further
down therefore make no difference.  There is room for the text at any depth: a
depth beyond what a machine could reserve space for is one like any other.
-/
import MarketDepth.Checksum.Crc32
import MarketDepth.Decimal.Text
import MarketDepth.Level

namespace MarketDepth.Checksum

def defaultDepth : Nat := 25

/-- The elements of two lists in turn, the first list first. -/
def interleave : List α → List α → List α
  | [], ys => ys
  | x :: xs, [] => x :: xs
  | x :: xs, y :: ys => x :: y :: interleave xs ys

/-- The fields of a level that the checksum covers. -/
def fields (l : Level) : List (List Char) :=
  [l.price.normalize.toChars, l.amount.normalize.toChars]

/-- The text that the checksum is taken over, for the best `depth` levels of each side. -/
def payload (bids asks : List Level) (depth : Nat) : List Char :=
  [':'].intercalate ((interleave (bids.take depth) (asks.take depth)).flatMap fields)

/-- The checksum of the best `depth` levels of each side.  The payload holds
digits, points, signs and colons only, so a character is a byte. -/
def ofLevels (bids asks : List Level) (depth : Nat) : UInt32 :=
  Crc32.ofBytes ((payload bids asks depth).map fun c => c.toNat.toUInt8)

end MarketDepth.Checksum
