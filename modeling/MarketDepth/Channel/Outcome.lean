/-
MarketDepth/Channel/Outcome.lean

What became of a message, and why a book may need a new snapshot.
-/
import MarketDepth.BookError

namespace MarketDepth

/-- How far a book is in step with its venue. -/
inductive Phase
  /-- Nothing has come yet. -/
  | unsynced
  /-- Changes are held until a snapshot comes. -/
  | holding
  /-- Changes are applied as they come. -/
  | synced
  /-- Changes are dropped until a new snapshot comes. -/
  | awaiting
deriving DecidableEq, Repr

def Phase.name : Phase → String
  | unsynced => "unsynced"
  | holding => "buffering"
  | synced => "synced"
  | awaiting => "resyncing"

/-- Why a book needs a new snapshot. -/
inductive Desync
  /-- A message does not follow the last one. -/
  | sequenceGap (expected actual : Int)
  /-- The venue's checksum is another. -/
  | checksumMismatch (expected computed : UInt32)
  /-- Too many messages came before the snapshot. -/
  | tooManyHeld (limit : Nat)
  /-- A message amends a level that does not rest. -/
  | unknownLevel (id : Int)
deriving DecidableEq

namespace Desync

/-- The errors that a new snapshot heals. -/
def ofError? : BookError → Option Desync
  | .outOfSequence expected actual => some (.sequenceGap expected actual)
  | .integrity expected computed => some (.checksumMismatch expected computed)
  | .tooManyHeld limit => some (.tooManyHeld limit)
  | .levelNotFound id => some (.unknownLevel id)
  | _ => none

def label : Desync → String
  | sequenceGap .. => "sequence_gap"
  | checksumMismatch .. => "checksum_mismatch"
  | tooManyHeld _ => "buffer_overflow"
  | unknownLevel _ => "unknown_level"

def message : Desync → String
  | sequenceGap expected actual => s!"sequence gap: expected {expected}, got {actual}"
  | checksumMismatch expected computed =>
    s!"checksum mismatch: venue {expected}, local {computed}"
  | tooManyHeld limit => s!"pre-sync buffer overflow at {limit} updates"
  | unknownLevel id => s!"unknown level id {id}"

end Desync

inductive Outcome
  /-- The changes are in the book. -/
  | applied
  /-- The changes wait for a snapshot. -/
  | held
  /-- The changes were dropped. -/
  | discarded
  /-- The snapshot was loaded and what had waited for it was dealt with: so many
  messages were applied, and so many were older than the snapshot. -/
  | synced (replayed stale : Nat)
  /-- The book needs a new snapshot. -/
  | desynced (reason : Desync)
deriving DecidableEq

end MarketDepth
