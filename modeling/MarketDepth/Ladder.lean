/-
MarketDepth/Ladder.lean

One side of a book: its levels, best first, no two at one price.

Every level occupies a node.  An edit that adds a level draws a node from the
pool, and one that removes a level hands its node back; each edit therefore
takes the pool and the time and returns the pool as well.  Which node it was
and what the node held before never matters, since a drawn node is written
over.

Prices name levels by value: `1.5` and `1.50` are one price.
-/
import MarketDepth.BookError
import MarketDepth.Pool

namespace MarketDepth

/-! ### Places -/

/-- A level, or the gap where it would stand, with the levels on either side. -/
structure Place where
  ahead : List Level
  resting : Option Level
  behind : List Level

namespace Place

/-- The levels with `l` standing at the place. -/
def put (p : Place) (l : Level) : List Level := p.ahead ++ l :: p.behind

/-- The levels with nothing standing at the place. -/
def cleared (p : Place) : List Level := p.ahead ++ p.behind

end Place

/-- One side of a book. -/
structure Ladder where
  side : Side
  levels : List Level

namespace Ladder

def empty (side : Side) : Ladder := ⟨side, []⟩

def best? (l : Ladder) : Option Level := l.levels.head?

def size (l : Ladder) : Nat := l.levels.length

def totals (l : Ladder) : Totals := .ofLevels l.levels

/-- The levels from the worst to the best. -/
def worstFirst (l : Ladder) : List Level := l.levels.reverse

/-- Each level stands ahead of the next. -/
def inOrder (side : Side) : List Level → Bool
  | a :: b :: rest => decide (side.Ahead a.price b.price) && inOrder side (b :: rest)
  | _ => true

def isOrdered (l : Ladder) : Bool := inOrder l.side l.levels

/-- The place of a price: behind all levels that stand ahead of it. -/
def place (l : Ladder) (price : Decimal) : Place :=
  match l.levels.span fun x => l.side.Ahead x.price price with
  | (ahead, x :: behind) =>
    if x.price ≈ price then ⟨ahead, some x, behind⟩ else ⟨ahead, none, x :: behind⟩
  | (ahead, []) => ⟨ahead, none, []⟩

/-- The place of the first level with a number; at the end if there is none. -/
def placeOfId (l : Ladder) (id : Int) : Place :=
  match l.levels.span fun x => x.id != some id with
  | (ahead, x :: behind) => ⟨ahead, some x, behind⟩
  | (ahead, []) => ⟨ahead, none, []⟩

/-! ### Edits -/

/-- A ladder and the pool after an edit. -/
abbrev Edited := Ladder × Pool

/-- Writes a level into a drawn node at a place. -/
def occupy (l : Ladder) (place : Place) (level : Level) (pool : Pool) (now : Instant) : Edited :=
  let (node, pool) := pool.draw now
  ({ l with levels := place.put (node.overwrite level) }, pool)

/-- Takes away the level at a place, if one rests there. -/
def vacate (l : Ladder) (place : Place) (pool : Pool) (now : Instant) : Edited :=
  match place.resting with
  | some x => ({ l with levels := place.cleared }, pool.handBack x now)
  | none => (l, pool)

def removePrice (l : Ladder) (price : Decimal) (pool : Pool) (now : Instant) : Edited :=
  l.vacate (l.place price) pool now

def removeId (l : Ladder) (id : Int) (pool : Pool) (now : Instant) : Edited :=
  l.vacate (l.placeOfId id) pool now

/-- Sets the amount at a price.  A level that rests there keeps its price and,
unless a number comes with the new amount, its number.  An amount of zero
removes the level. -/
def setPrice (l : Ladder) (level : Level) (pool : Pool) (now : Instant) : Edited :=
  if level.amount.IsZero then l.removePrice level.price pool now
  else
    let place := l.place level.price
    match place.resting with
    | some x =>
      ({ l with levels := place.put { x with amount := level.amount, id := level.id.or x.id } },
        pool)
    | none => l.occupy place level pool now

/-- Puts a numbered level at its price, in the stead of what rests there and of
the level that had its number. -/
def insertId (l : Ladder) (level : Level) (pool : Pool) (now : Instant) : Edited :=
  let (l, pool) :=
    match level.id with
    | some id => l.removeId id pool now
    | none => (l, pool)
  if level.amount.IsZero then (l, pool)
  else
    let place := l.place level.price
    match place.resting with
    | some _ => ({ l with levels := place.put level }, pool)
    | none => l.occupy place level pool now

/-- Changes the level with a number: its amount if it stays at its price, and
otherwise its place too, where it takes the stead of what rests there.  An
amount of zero removes the level. -/
def amendId (l : Ladder) (id : Int) (level : Level) (pool : Pool) (now : Instant) :
    Except BookError Edited :=
  let place := l.placeOfId id
  match place.resting with
  | none => .error (.levelNotFound id)
  | some x =>
    if level.amount.IsZero then .ok (l.vacate place pool now)
    else if x.price ≈ level.price then
      .ok ({ l with levels := place.put { x with amount := level.amount } }, pool)
    else
      let moved := { level with id := some id }
      let l := { l with levels := place.cleared }
      let target := l.place level.price
      match target.resting with
      | some _ => .ok ({ l with levels := target.put moved }, pool.handBack moved now)
      | none => .ok ({ l with levels := target.put moved }, pool)

/-- Takes away all levels. -/
def vacateAll (l : Ladder) (pool : Pool) (now : Instant) : Edited :=
  ({ l with levels := [] }, pool.handBackAll l.levels now)

/-- Draws a node for each level in turn and writes the level into it. -/
def fill : List Level → Pool → Instant → List Level × Pool
  | [], pool, _ => ([], pool)
  | level :: rest, pool, now =>
    let (node, pool) := pool.draw now
    let (filled, pool) := fill rest pool now
    (node.overwrite level :: filled, pool)

/-- Replaces all levels.  The nodes of the old ones are handed back before any
is drawn for the new ones, which are in order already. -/
def refill (l : Ladder) (levels : List Level) (pool : Pool) (now : Instant) : Edited :=
  let (l, pool) := l.vacateAll pool now
  let (filled, pool) := fill levels pool now
  ({ l with levels := filled }, pool)

/-- What a drawn node held before leaves no trace. -/
@[simp] theorem fill_fst (levels : List Level) (pool : Pool) (now : Instant) :
    (fill levels pool now).1 = levels := by
  induction levels generalizing pool with
  | nil => rfl
  | cons l rest ih => simp [fill, ih]

end Ladder

end MarketDepth
