/-
MarketDepth/Checksum/Crc32.lean

The cyclic redundancy check with 32 bits: bytes enter lowest bit first, the
register starts and ends inverted, and the polynomial is `04C11DB7`, written
here with its bits in reverse.
-/

namespace MarketDepth.Crc32

def polynomial : UInt32 := 0xEDB88320

/-- Shifts one bit out of the register. -/
def shiftBit (r : UInt32) : UInt32 :=
  if r &&& 1 = 1 then (r >>> 1) ^^^ polynomial else r >>> 1

def shiftBits : Nat → UInt32 → UInt32
  | 0, r => r
  | n + 1, r => shiftBits n (shiftBit r)

/-- The register after one more byte. -/
def feed (r : UInt32) (b : UInt8) : UInt32 := shiftBits 8 (r ^^^ b.toUInt32)

def ofBytes (bs : List UInt8) : UInt32 := bs.foldl feed 0xFFFFFFFF ^^^ 0xFFFFFFFF

end MarketDepth.Crc32
