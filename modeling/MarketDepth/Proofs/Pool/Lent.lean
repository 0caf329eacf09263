/-
MarketDepth/Proofs/Pool/Lent.lean

Nodes that a pool has lent.

A node that was made is free, or it was purged, or it is out.  `Pool.lent` counts
those that are out.  Drawing a node adds one to them, and handing nodes back takes
off as many, however many of the free ones are purged on the way.

An edit of a ladder draws a node for each level that it adds, and hands one back for
each that it takes away, also when a level comes to rest where another one rested.
So there are as many nodes out, but not in the ladder, as before.  This is carried
from the single edits over the changes of a message and the loading of a snapshot up
to a whole message on a channel (`Channel.receive_elsewhere`), whether it fails or
not.

Main result for a book that is given up: `Book.giveUp_free`, that the nodes of its
levels go to the pool, and which nodes the pool holds then.
-/
import MarketDepth.Proofs.Nodes
import MarketDepth.Proofs.Ladder.Places

namespace MarketDepth

/-! ### The pool -/

namespace Pool

variable (p : Pool) (levels : List Level) (now : Instant)

/-- How many nodes are out: those made that are neither free nor purged. -/
def lent : Int := p.allocated - (p.spareCount + p.purged)

/-- What the nodes on the free list last held, oldest in front. -/
def contents : List Level := p.free.map (·.level)

/-- Purging drops nodes from the front of the list and counts them. -/
theorem purge_contents :
    ∃ gone, p.contents = gone ++ (p.purge now).contents ∧
      (p.purge now).purged = p.purged + gone.length := by
  have hsplit := List.takeWhile_append_dropWhile (p := (p.Expired now ·)) (l := p.free)
  refine ⟨(p.free.takeWhile (p.Expired now ·)).map (·.level), ?_, ?_⟩
  · rw [contents, contents, purge, ← List.map_append, hsplit]
  · have hlength := congrArg List.length hsplit
    rw [List.length_append] at hlength
    rw [purge, List.length_map]
    dsimp only
    omega

theorem spareCount_eq : p.spareCount = p.contents.length := by
  rw [spareCount, contents, List.length_map]

@[simp] theorem lent_purge : (p.purge now).lent = p.lent := by
  obtain ⟨gone, hcontents, hpurged⟩ := p.purge_contents now
  have hallocated : (p.purge now).allocated = p.allocated := rfl
  rw [lent, lent, hallocated, hpurged, spareCount_eq, spareCount_eq, hcontents,
    List.length_append]
  omega

@[simp] theorem lent_draw : (p.draw now).2.lent = p.lent + 1 := by
  rw [← p.lent_purge now]
  unfold draw
  cases h : (p.purge now).free with
  | nil =>
    simp only [lent, spareCount, h]
    omega
  | cons n rest =>
    simp only [lent, spareCount, h, List.length_dropLast, List.length_cons]
    omega

theorem handBackAll_contents :
    ∃ gone, p.contents ++ levels = gone ++ (p.handBackAll levels now).contents ∧
      (p.handBackAll levels now).purged = p.purged + gone.length := by
  obtain ⟨gone, hcontents, hpurged⟩ :=
    purge_contents { p with free := p.free ++ levels.map (⟨·, p.stamp now⟩) } now
  refine ⟨gone, ?_, hpurged⟩
  rw [handBackAll, ← hcontents, contents, contents, List.map_append, List.map_map]
  congr 1
  exact (List.map_id levels).symm

@[simp] theorem lent_handBackAll :
    (p.handBackAll levels now).lent = p.lent - levels.length := by
  rw [handBackAll, lent_purge]
  simp only [lent, spareCount, List.length_append, List.length_map]
  omega

@[simp] theorem lent_handBack (level : Level) :
    (p.handBack level now).lent = p.lent - 1 := p.lent_handBackAll [level] now

end Pool

/-! ### Edits of a ladder -/

namespace Ladder

variable (l : Ladder) (pool : Pool) (now : Instant)
variable {place : Place} {level : Level}

/-- How many nodes are out, but not in the ladder. -/
def elsewhere : Int := pool.lent - l.size

theorem vacate_elsewhere (hlevels : place.levels = l.levels) :
    (l.vacate place pool now).1.elsewhere (l.vacate place pool now).2 = l.elsewhere pool := by
  have hlength := place.length_levels
  rw [hlevels] at hlength
  unfold vacate
  cases hx : place.resting with
  | none => rfl
  | some x =>
    simp only [hx, Option.toList_some, List.length_singleton] at hlength
    simp only [elsewhere, size, Pool.lent_handBack, hlength]
    omega

/-- A level in the stead of another one takes its node. -/
theorem replace_elsewhere {x : Level} (hlevels : place.levels = l.levels)
    (hx : place.resting = some x) :
    elsewhere { l with levels := place.put level } pool = l.elsewhere pool := by
  have hlength := place.length_levels
  simp only [hlevels, hx, Option.toList_some, List.length_singleton] at hlength
  simp only [elsewhere, size, Place.length_put, hlength]

theorem occupy_elsewhere (hlevels : place.levels = l.levels) (hnone : place.resting = none) :
    (l.occupy place level pool now).1.elsewhere (l.occupy place level pool now).2 =
      l.elsewhere pool := by
  have hlength := place.length_levels
  simp only [hlevels, hnone, Option.toList_none, List.length_nil, Nat.add_zero] at hlength
  simp only [occupy, elsewhere, size, Pool.lent_draw, Place.length_put, hlength]
  omega

theorem setPrice_elsewhere (level : Level) :
    (l.setPrice level pool now).1.elsewhere (l.setPrice level pool now).2 =
      l.elsewhere pool := by
  have hlevels := l.place_levels level.price
  unfold setPrice
  split
  · exact l.vacate_elsewhere pool now hlevels
  · dsimp only
    split
    · next x hx => exact l.replace_elsewhere pool hlevels hx
    · next hnone => exact l.occupy_elsewhere pool now hlevels hnone

theorem withoutId_elsewhere (id : Option Int) :
    (l.withoutId pool now id).1.elsewhere (l.withoutId pool now id).2 = l.elsewhere pool := by
  cases id with
  | none => rfl
  | some id => exact l.vacate_elsewhere pool now (l.placeOfId_levels id)

/-- What an insertion does once no level has its number. -/
def putAt (level : Level) : Edited :=
  if level.amount.IsZero then (l, pool)
  else
    match (l.place level.price).resting with
    | some _ => ({ l with levels := (l.place level.price).put level }, pool)
    | none => l.occupy (l.place level.price) level pool now

theorem insertId_eq_putAt (level : Level) :
    l.insertId level pool now =
      (l.withoutId pool now level.id).1.putAt (l.withoutId pool now level.id).2 now level := by
  unfold insertId withoutId
  cases level.id <;> rfl

theorem putAt_elsewhere (level : Level) :
    (l.putAt pool now level).1.elsewhere (l.putAt pool now level).2 = l.elsewhere pool := by
  have hlevels := l.place_levels level.price
  unfold putAt
  split
  · rfl
  · split
    · next x hx => exact l.replace_elsewhere pool hlevels hx
    · next hnone => exact l.occupy_elsewhere pool now hlevels hnone

theorem insertId_elsewhere (level : Level) :
    (l.insertId level pool now).1.elsewhere (l.insertId level pool now).2 =
      l.elsewhere pool := by
  rw [insertId_eq_putAt, putAt_elsewhere, withoutId_elsewhere]

variable {l pool now}

theorem amendId_elsewhere {id : Int} {r : Edited} (h : l.amendId id level pool now = .ok r) :
    r.1.elsewhere r.2 = l.elsewhere pool := by
  have hold := l.placeOfId_levels id
  unfold amendId at h
  dsimp only at h
  cases hx : (l.placeOfId id).resting with
  | none => simp [hx] at h
  | some x =>
    simp only [hx] at h
    split at h
    · obtain rfl := Except.ok.inj h
      exact l.vacate_elsewhere pool now hold
    · split at h
      · obtain rfl := Except.ok.inj h
        exact l.replace_elsewhere pool hold hx
      · -- the level leaves its place, and its node goes with it or is left over
        have hlength := (l.placeOfId id).length_levels
        have hnew := ({ l with levels := (l.placeOfId id).cleared } : Ladder).place_levels
          level.price
        have hnewlength := (({ l with levels := (l.placeOfId id).cleared } : Ladder).place
          level.price).length_levels
        simp only [hold, hx, Option.toList_some, List.length_singleton] at hlength
        rw [hnew] at hnewlength
        split at h
        · next y hy =>
          obtain rfl := Except.ok.inj h
          simp only [hy, Option.toList_some, List.length_singleton] at hnewlength
          simp only [elsewhere, size, Pool.lent_handBack, Place.length_put]
          omega
        · next hnone =>
          obtain rfl := Except.ok.inj h
          simp only [hnone, Option.toList_none, List.length_nil] at hnewlength
          simp only [elsewhere, size, Place.length_put]
          omega

/-- No action leaves a node behind or takes one that it does not use. -/
theorem apply_elsewhere {addressing : Addressing} {action : Action} {r : Edited}
    (h : l.apply addressing action pool now = .ok r) : r.1.elsewhere r.2 = l.elsewhere pool := by
  cases action with
  | insert level =>
    rw [apply] at h
    split at h
    · obtain rfl := Except.ok.inj h
      exact l.insertId_elsewhere pool now level
    · obtain rfl := Except.ok.inj h
      exact l.setPrice_elsewhere pool now level
  | amend level =>
    simp only [apply] at h
    split at h
    · exact amendId_elsewhere h
    · obtain rfl := Except.ok.inj h
      exact l.setPrice_elsewhere pool now level
  | delete address =>
    cases address with
    | price price =>
      obtain rfl := Except.ok.inj h
      exact l.vacate_elsewhere pool now (l.place_levels price)
    | id id =>
      obtain rfl := Except.ok.inj h
      exact l.vacate_elsewhere pool now (l.placeOfId_levels id)

theorem lent_fill (levels : List Level) :
    (fill levels pool now).2.lent = pool.lent + levels.length := by
  induction levels generalizing pool with
  | nil => simp [fill]
  | cons level rest ih =>
    simp only [fill, ih, Pool.lent_draw, List.length_cons]
    omega

theorem refill_elsewhere (l : Ladder) (levels : List Level) (pool : Pool) (now : Instant) :
    (l.refill levels pool now).1.elsewhere (l.refill levels pool now).2 = l.elsewhere pool := by
  simp only [refill, vacateAll, elsewhere, size, fill_fst, lent_fill, Pool.lent_handBackAll]
  omega

end Ladder

/-! ### Messages on a book -/

namespace Book

variable {b : Book} {pool : Pool} {now : Instant}

/-- How many levels rest on the two sides. -/
def size (b : Book) : Nat := b.bids.size + b.asks.size

/-- How many nodes are out, but not in the book. -/
def elsewhere (b : Book) (pool : Pool) : Int := pool.lent - b.size

theorem setLadder_elsewhere {side : Side} {r : Ladder.Edited}
    (h : r.1.elsewhere r.2 = (b.ladder side).elsewhere pool) :
    (b.setLadder side r.1).elsewhere r.2 = b.elsewhere pool := by
  cases side with
  | bid =>
    simp only [Ladder.elsewhere, ladder, elsewhere, size, setLadder] at h ⊢
    omega
  | ask =>
    simp only [Ladder.elsewhere, ladder, elsewhere, size, setLadder] at h ⊢
    omega

theorem applyChange_elsewhere {c : Change} {r : Book × Pool}
    (h : b.applyChange c pool now = .ok r) : r.1.elsewhere r.2 = b.elsewhere pool := by
  unfold applyChange at h
  cases hl : (b.ladder c.side).apply b.options.addressing c.action pool now with
  | error e => simp [hl, Except.map] at h
  | ok q =>
    rw [hl] at h
    obtain rfl := Except.ok.inj h
    exact setLadder_elsewhere (Ladder.apply_elsewhere hl)

theorem applyInTurn_elsewhere (b : Book) (pool : Pool) (now : Instant) (cs : List Change) :
    (b.applyInTurn pool now cs).book.elsewhere (b.applyInTurn pool now cs).pool =
      b.elsewhere pool := by
  induction cs generalizing b pool with
  | nil => rfl
  | cons c rest ih =>
    unfold applyInTurn
    cases h : b.applyChange c pool now with
    | error e => rfl
    | ok r => exact (ih r.1 r.2).trans (applyChange_elsewhere h)

theorem apply_elsewhere (b : Book) (id : Int) (cs : List Change) (pool : Pool)
    (now : Instant) :
    (b.apply id cs pool now).book.elsewhere (b.apply id cs pool now).pool =
      b.elsewhere pool := by
  have hturn := b.applyInTurn_elsewhere pool now cs
  unfold apply
  cases b.checkMessage id cs with
  | error e => rfl
  | ok u =>
    dsimp only
    cases (b.applyInTurn pool now cs).error with
    | some e => exact hturn
    | none => exact hturn

/-- The checksum of a message is only read. -/
theorem applyDelta_elsewhere (b : Book) (d : Delta) (pool : Pool) (now : Instant) :
    (b.applyDelta d pool now).book.elsewhere (b.applyDelta d pool now).pool =
      b.elsewhere pool := by
  rw [← b.apply_elsewhere d.id d.changes pool now]
  unfold applyDelta
  dsimp only
  split
  · split <;> rfl
  · rfl

theorem restore_elsewhere {bids asks : List Level} {id : Int} {r : Book × Pool}
    (h : b.restore bids asks id pool now = .ok r) : r.1.elsewhere r.2 = b.elsewhere pool := by
  rw [restore] at h
  cases hsides : b.intakeSides bids asks with
  | error fault => simp [hsides] at h
  | ok sides =>
    have hbids := b.bids.refill_elsewhere sides.1 pool now
    have hasks := b.asks.refill_elsewhere sides.2 (b.bids.refill sides.1 pool now).2 now
    rw [hsides] at h
    dsimp only at h
    generalize b.bids.refill sides.1 pool now = first at h hbids hasks
    generalize b.asks.refill sides.2 first.2 now = second at h hasks
    obtain rfl := Except.ok.inj h
    simp only [Ladder.elsewhere, elsewhere, size] at hbids hasks ⊢
    omega

/-- A book that is given up hands back the nodes of its levels: they are on the free
list behind those that were there, and of all of them the oldest may be purged. -/
theorem giveUp_free (b : Book) (pool : Pool) (now : Instant) :
    (b.giveUp pool now).allocated = pool.allocated ∧
      (b.giveUp pool now).reused = pool.reused ∧
      ∃ gone, pool.contents ++ (b.bids.levels ++ b.asks.levels) =
          gone ++ (b.giveUp pool now).contents ∧
        (b.giveUp pool now).purged = pool.purged + gone.length := by
  obtain ⟨gone, hbids, hpurged⟩ := pool.handBackAll_contents b.bids.levels now
  obtain ⟨gone', hasks, hpurged'⟩ :=
    (pool.handBackAll b.bids.levels now).handBackAll_contents b.asks.levels now
  refine ⟨rfl, rfl, gone ++ gone', ?_, ?_⟩
  · rw [← List.append_assoc, hbids, List.append_assoc, hasks, List.append_assoc]
    rfl
  · rw [List.length_append, ← Nat.add_assoc, ← hpurged]
    exact hpurged'

end Book

/-! ### Messages on a channel -/

namespace Channel

variable {c : Channel} {pool : Pool} {clock : Nat → Instant}

theorem answerError_elsewhere (e : BookError) :
    (c.answerError pool e).channel.book.elsewhere (c.answerError pool e).pool =
      c.book.elsewhere pool := by
  unfold answerError
  cases Desync.ofError? e <;> rfl

theorem replayHeld_elsewhere (id : Int) (replayed stale : Nat) (ds : List Delta) :
    (c.replayHeld id pool clock replayed stale ds).channel.book.elsewhere
      (c.replayHeld id pool clock replayed stale ds).pool = c.book.elsewhere pool := by
  induction ds generalizing c pool replayed stale with
  | nil => rfl
  | cons d rest ih =>
    have hdelta := c.book.applyDelta_elsewhere d pool (clock (replayed + 1))
    unfold replayHeld
    split
    · exact ih replayed (stale + 1)
    · dsimp only
      split
      · exact (ih (replayed + 1) stale).trans hdelta
      · exact (answerError_elsewhere _).trans hdelta

theorem receiveSnapshot_elsewhere (s : Snapshot) :
    (c.receiveSnapshot s pool clock).channel.book.elsewhere
      (c.receiveSnapshot s pool clock).pool = c.book.elsewhere pool := by
  unfold receiveSnapshot
  cases h : c.book.restore s.bids s.asks s.id pool (clock 0) with
  | error e => rfl
  | ok r =>
    have hrestore := Book.restore_elsewhere h
    dsimp only
    split
    · exact (answerError_elsewhere _).trans hrestore
    · exact (replayHeld_elsewhere _ _ _ _).trans hrestore

theorem receiveDelta_elsewhere (d : Delta) :
    (c.receiveDelta d pool clock).channel.book.elsewhere (c.receiveDelta d pool clock).pool =
      c.book.elsewhere pool := by
  have hhold : (c.hold d pool).channel.book.elsewhere (c.hold d pool).pool =
      c.book.elsewhere pool := by
    unfold hold
    cases checkChanges d.changes with
    | error e => rfl
    | ok u =>
      dsimp only
      split
      · exact answerError_elsewhere _
      · rfl
  have hlive : (c.applyLive d pool (clock 0)).channel.book.elsewhere
      (c.applyLive d pool (clock 0)).pool = c.book.elsewhere pool := by
    have hdelta := c.book.applyDelta_elsewhere d pool (clock 0)
    unfold applyLive
    dsimp only
    split
    · exact hdelta
    · exact (answerError_elsewhere _).trans hdelta
  unfold receiveDelta
  cases c.phase with
  | unsynced => exact hhold
  | holding => exact hhold
  | synced => exact hlive
  | awaiting => rfl

/-- Whatever becomes of a message, as many nodes are out, but not in its book, as
before. -/
theorem receive_elsewhere (c : Channel) (p : Payload) (pool : Pool) (clock : Nat → Instant) :
    (c.receive p pool clock).channel.book.elsewhere (c.receive p pool clock).pool =
      c.book.elsewhere pool := by
  cases p with
  | snapshot s => exact receiveSnapshot_elsewhere s
  | delta d => exact receiveDelta_elsewhere d

end Channel

end MarketDepth
