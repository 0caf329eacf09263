/-
MarketDepth/Pool.lean

The free list of nodes.

A node holds one level.  Ladders draw their nodes from a pool and hand them
back to it, and the pool gives out again what was handed back, the latest
first.  A node that nobody asked for within the retention time is purged at
the next access.

The list is in the order in which its nodes were handed back, oldest in front.
Callers may read the clock in one order and reach the pool in another, so a
node is never stamped earlier than the one handed back before it: the stamps
never decrease along the list, and purging from the front finds all that is
due.
-/
import MarketDepth.Level

namespace MarketDepth

/-- Milliseconds since a fixed start. -/
abbrev Instant := Nat

/-- A node on the free list, with what it last held and when it came back. -/
structure Spare where
  level : Level
  since : Instant

/-- A free list and the counts of what it did. -/
structure Pool where
  /-- How long, in milliseconds, a free node stays usable. -/
  retention : Nat
  free : List Spare
  /-- Nodes made because none was free. -/
  allocated : Nat
  /-- Nodes given out again. -/
  reused : Nat
  /-- Nodes dropped after the retention time. -/
  purged : Nat

namespace Pool

/-- One second. -/
def defaultRetention : Nat := 1000

def empty (retention : Nat) : Pool := ⟨retention, [], 0, 0, 0⟩

/-- How many nodes are on the free list, due ones included. -/
def spareCount (p : Pool) : Nat := p.free.length

/-- The node outlived the retention time. -/
def Expired (p : Pool) (now : Instant) (n : Spare) : Prop := p.retention < now - n.since

instance (p : Pool) (now : Instant) (n : Spare) : Decidable (p.Expired now n) :=
  inferInstanceAs (Decidable (p.retention < now - n.since))

/-- Purges expired nodes from the front of the list. -/
def purge (p : Pool) (now : Instant) : Pool :=
  let kept := p.free.dropWhile (p.Expired now ·)
  { p with free := kept, purged := p.purged + (p.free.length - kept.length) }

/-- How many nodes are still usable at `now`, after purging the others. -/
def usableAt (p : Pool) (now : Instant) : Nat × Pool := ((p.purge now).spareCount, p.purge now)

/-- Draws a node: the latest free one, wiped, or else a new one. -/
def draw (p : Pool) (now : Instant) : Level × Pool :=
  let p := p.purge now
  match p.free with
  | [] => (.blank, { p with allocated := p.allocated + 1 })
  | _ :: _ => (.blank, { p with free := p.free.dropLast, reused := p.reused + 1 })

/-- The stamp for nodes handed back at `now`. -/
def stamp (p : Pool) (now : Instant) : Instant :=
  match p.free.getLast? with
  | some last => max now last.since
  | none => now

/-- Hands back a batch of nodes, all with one stamp. -/
def handBackAll (p : Pool) (levels : List Level) (now : Instant) : Pool :=
  let since := p.stamp now
  purge { p with free := p.free ++ levels.map (⟨·, since⟩) } now

/-- Hands back one node. -/
def handBack (p : Pool) (level : Level) (now : Instant) : Pool := p.handBackAll [level] now

end Pool

end MarketDepth
