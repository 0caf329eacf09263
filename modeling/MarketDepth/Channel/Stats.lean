/-
MarketDepth/Channel/Stats.lean

Counts of what happened to the messages of one book.
-/
import MarketDepth.Channel.Outcome

namespace MarketDepth

structure Stats where
  /-- Messages with changes that were applied, at once or after a snapshot. -/
  applied : Nat := 0
  /-- Messages that were held for a snapshot. -/
  held : Nat := 0
  /-- Messages that were dropped. -/
  discarded : Nat := 0
  /-- Snapshots that were loaded. -/
  snapshots : Nat := 0
  /-- Times a new snapshot became necessary. -/
  desyncs : Nat := 0
deriving DecidableEq, Repr

/-- Finer counts, for the page of metrics. -/
structure Meters where
  /-- Times that a number of dropped messages was reported, be it zero. -/
  discardReports : Nat := 0
  sequenceGaps : Nat := 0
  checksumMismatches : Nat := 0
  tooManyHeld : Nat := 0
  unknownLevels : Nat := 0
deriving DecidableEq, Repr

def Meters.count (m : Meters) : Desync → Meters
  | .sequenceGap .. => { m with sequenceGaps := m.sequenceGaps + 1 }
  | .checksumMismatch .. => { m with checksumMismatches := m.checksumMismatches + 1 }
  | .tooManyHeld _ => { m with tooManyHeld := m.tooManyHeld + 1 }
  | .unknownLevel _ => { m with unknownLevels := m.unknownLevels + 1 }

end MarketDepth
