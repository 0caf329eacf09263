/-
MarketDepth/Channel.lean

A book and the stream of messages that keeps it in step with its venue.

Changes and the snapshot that they build on race each other.  Changes that
come before the first snapshot are held, up to a limit, and are applied on top
of it in the order of their numbers; those it already covers are dropped.
From then on changes are applied as they come.  A gap in their numbers, a
wrong checksum, an unknown level or too many held messages invalidate the
book, and everything is dropped until the next snapshot, which heals it.

An error is returned only for a message that is malformed in itself.  It
changes nothing.

One message may take several accesses to the pool of nodes, each at its own
time: `clock 0` is when a snapshot is loaded or live changes are applied, and
`clock (i + 1)` when the `i`-th held message is applied.
-/
import MarketDepth.Book.Apply
import MarketDepth.Book.Figures
import MarketDepth.Book.Restore
import MarketDepth.Book.View
import MarketDepth.Channel.Stats

namespace MarketDepth

/-- Applies the changes of a message and compares the checksum that it may carry. -/
def Book.applyDelta (b : Book) (d : Delta) (pool : Pool) (now : Instant) : Book.Edited :=
  let r := b.apply d.id d.changes pool now
  match r.error, d.checksum with
  | none, some expected =>
    match r.book.compareChecksum expected with
    | .ok () => r
    | .error e => { r with error := some e }
  | _, _ => r

structure Channel where
  book : Book
  phase : Phase
  /-- The messages held for a snapshot, in the order in which they came. -/
  held : List Delta
  holdLimit : Nat
  stats : Stats
  meters : Meters

namespace Channel

def defaultHoldLimit : Nat := 1000

/-- A channel on which nothing has come yet. -/
def empty (key : Key) (options : Options) (holdLimit : Nat) : Channel :=
  ⟨.empty key options, .unsynced, [], holdLimit, {}, {}⟩

/-- A channel and the pool after a message, and what became of the message. -/
structure Step where
  channel : Channel
  pool : Pool
  outcome : Except BookError Outcome

/-! ### Counting -/

def countApplied (c : Channel) : Channel :=
  { c with stats := { c.stats with applied := c.stats.applied + 1 } }

/-- Counts `n` messages as dropped. -/
def countDiscarded (c : Channel) (n : Nat) : Channel :=
  { c with
    stats := { c.stats with discarded := c.stats.discarded + n }
    meters := { c.meters with discardReports := c.meters.discardReports + 1 } }

/-! ### Recovery -/

/-- Gives the book up until the next snapshot. -/
def desync (c : Channel) (reason : Desync) : Channel :=
  { c with
    book := c.book.invalidate reason.message
    phase := .awaiting
    held := []
    stats := { c.stats with desyncs := c.stats.desyncs + 1 }
    meters := c.meters.count reason }

/-- Answers an error: gives the book up if a snapshot heals it, and passes on any other. -/
def answerError (c : Channel) (pool : Pool) (e : BookError) : Step :=
  match Desync.ofError? e with
  | some reason => ⟨c.desync reason, pool, .ok (.desynced reason)⟩
  | none => ⟨c, pool, .error e⟩

/-! ### Messages -/

/-- Applies the held messages, in the order of their numbers, to a book just
restored from the snapshot with number `id`. -/
def replayHeld (c : Channel) (id : Int) (pool : Pool) (clock : Nat → Instant)
    (replayed stale : Nat) : List Delta → Step
  | [] => ⟨{ c.countDiscarded stale with phase := .synced }, pool, .ok (.synced replayed stale)⟩
  | d :: rest =>
    if d.id ≤ id then replayHeld c id pool clock replayed (stale + 1) rest
    else
      let r := c.book.applyDelta d pool (clock (replayed + 1))
      let c := { c with book := r.book }
      match r.error with
      | none => replayHeld c.countApplied id r.pool clock (replayed + 1) stale rest
      | some e => (c.countDiscarded stale).answerError r.pool e

/-- The held messages in the order of their numbers; equal numbers stay in the order they came. -/
def heldInOrder (c : Channel) : List Delta := c.held.mergeSort fun a b => a.id ≤ b.id

/-- Loads a snapshot, checks its checksum, and applies what was held for it. -/
def receiveSnapshot (c : Channel) (s : Snapshot) (pool : Pool) (clock : Nat → Instant) : Step :=
  match c.book.restore s.bids s.asks s.id pool (clock 0) with
  | .error e => ⟨c, pool, .error e⟩
  | .ok (book, pool) =>
    let held := c.heldInOrder
    let c := { c with book, stats := { c.stats with snapshots := c.stats.snapshots + 1 } }
    match s.checksum.map book.compareChecksum with
    | some (.error e) => c.answerError pool e
    | _ => replayHeld { c with held := [] } s.id pool clock 0 0 held

/-- Holds a message for the snapshot to come. -/
def hold (c : Channel) (d : Delta) (pool : Pool) : Step :=
  match checkChanges d.changes with
  | .error e => ⟨c, pool, .error e⟩
  | .ok () =>
    if c.holdLimit ≤ c.held.length then
      (c.countDiscarded (c.held.length + 1)).answerError pool (.tooManyHeld c.holdLimit)
    else
      ⟨{ c with
          held := c.held ++ [d]
          phase := .holding
          stats := { c.stats with held := c.stats.held + 1 } },
        pool, .ok .held⟩

/-- Applies changes to a book that is in step. -/
def applyLive (c : Channel) (d : Delta) (pool : Pool) (now : Instant) : Step :=
  let r := c.book.applyDelta d pool now
  let c := { c with book := r.book }
  match r.error with
  | none => ⟨c.countApplied, r.pool, .ok .applied⟩
  | some e => c.answerError r.pool e

def receiveDelta (c : Channel) (d : Delta) (pool : Pool) (clock : Nat → Instant) : Step :=
  match c.phase with
  | .unsynced | .holding => c.hold d pool
  | .synced => c.applyLive d pool (clock 0)
  | .awaiting => ⟨c.countDiscarded 1, pool, .ok .discarded⟩

/-- Takes in one message. -/
def receive (c : Channel) (p : Payload) (pool : Pool) (clock : Nat → Instant) : Step :=
  match p with
  | .snapshot s => c.receiveSnapshot s pool clock
  | .delta d => c.receiveDelta d pool clock

/-! ### Reading -/

/-- A copy of the book, if it may be read. -/
def view (c : Channel) : Except BookError View := c.book.readable.map fun _ => c.book.view

/-- What a market order would do to the book, if it may be read. -/
def simulate (c : Channel) (amount : Decimal) (buy : Bool) :
    Except Simulation.Failure Simulation :=
  match c.book.readable with
  | .ok () => c.book.simulate amount buy
  | .error e => .error (.refused e)

end Channel

end MarketDepth
