/-
MarketDepth/Proofs/Channel/Moments.lean

The moments of a message.

A message on a channel edits the ladders of its book: both are filled again when a snapshot
is loaded, and changes, live ones and held ones, are applied in turn.  Its moments are those
of the edits, one edit after the other, up to the last one that is made.  While one ladder
is edited, the other one rests.

They are a course from the pool before the message to the pool after it, whatever becomes
of the message (`Channel.receive_course`).
-/
import MarketDepth.Proofs.Ladder.Moments

namespace MarketDepth

namespace Book

variable {b : Book} {pool : Pool} {now : Instant}

/-- A course of one of the ladders is a course of the book. -/
theorem setLadder_course (b : Book) (side : Side) {xs : List (Moment Ladder)} {q : Pool}
    (h : Course Ladder.size ((b.ladder side).elsewhere pool) pool xs q) :
    Course size (b.elsewhere pool) pool (xs.map (Moment.map (b.setLadder side))) q := by
  have hheld (l : Ladder) : ((b.setLadder side l).size : Int) =
      l.size + (b.size - (b.ladder side).size) := by
    cases side with
    | bid =>
      simp only [size, setLadder, ladder]
      omega
    | ask =>
      simp only [size, setLadder, ladder]
      omega
  have hout : b.elsewhere pool =
      (b.ladder side).elsewhere pool - (b.size - (b.ladder side).size) := by
    rw [elsewhere, Ladder.elsewhere]
    omega
  rw [hout]
  exact h.map hheld

/-! ### Changes -/

/-- The moments of changes that are applied in turn up to the first that fails. -/
def turnMoments (b : Book) (pool : Pool) (now : Instant) : List Change → List (Moment Book)
  | [] => []
  | c :: rest =>
    match b.applyChange c pool now with
    | .ok (b', pool') =>
      ((b.ladder c.side).applyMoments b.options.addressing c.action pool now).map
          (Moment.map (b.setLadder c.side)) ++
        b'.turnMoments pool' now rest
    | .error _ => []

def deltaMoments (b : Book) (d : Delta) (pool : Pool) (now : Instant) : List (Moment Book) :=
  match b.checkMessage d.id d.changes with
  | .error _ => []
  | .ok () => b.turnMoments pool now d.changes

theorem change_course {c : Change} {r : Book × Pool} (h : b.applyChange c pool now = .ok r) :
    Course size (b.elsewhere pool) pool
      (((b.ladder c.side).applyMoments b.options.addressing c.action pool now).map
        (Moment.map (b.setLadder c.side))) r.2 := by
  unfold applyChange at h
  cases hl : (b.ladder c.side).apply b.options.addressing c.action pool now with
  | error e => simp [hl, Except.map] at h
  | ok q =>
    rw [hl] at h
    obtain rfl := Except.ok.inj h
    exact b.setLadder_course c.side (Ladder.apply_course hl)

theorem turn_course (b : Book) (pool : Pool) (now : Instant) (cs : List Change) :
    Course size (b.elsewhere pool) pool (b.turnMoments pool now cs)
      (b.applyInTurn pool now cs).pool := by
  induction cs generalizing b pool with
  | nil => exact .done pool
  | cons c rest ih =>
    unfold turnMoments applyInTurn
    cases h : b.applyChange c pool now with
    | error e => exact .done pool
    | ok r =>
      have hrest := ih r.1 r.2
      rw [applyChange_elsewhere h] at hrest
      exact (change_course h).append hrest

theorem applyDelta_pool (b : Book) (d : Delta) (pool : Pool) (now : Instant) :
    (b.applyDelta d pool now).pool = (b.apply d.id d.changes pool now).pool := by
  unfold applyDelta
  dsimp only
  split
  · split <;> rfl
  · rfl

theorem delta_course (b : Book) (d : Delta) (pool : Pool) (now : Instant) :
    Course size (b.elsewhere pool) pool (b.deltaMoments d pool now)
      (b.applyDelta d pool now).pool := by
  have hturn := b.turn_course pool now d.changes
  rw [applyDelta_pool]
  unfold deltaMoments apply
  cases b.checkMessage d.id d.changes with
  | error e => exact .done pool
  | ok u =>
    dsimp only
    cases (b.applyInTurn pool now d.changes).error with
    | some e => exact hturn
    | none => exact hturn

/-! ### Snapshots -/

/-- The bids are filled again, and then the asks. -/
def restoreMoments (b : Book) (bids asks : List Level) (pool : Pool) (now : Instant) :
    List (Moment Book) :=
  match b.intakeSides bids asks with
  | .error _ => []
  | .ok (bids, asks) =>
    let r := b.bids.refill bids pool now
    (b.bids.refillMoments bids pool now).map (Moment.map (b.setLadder .bid)) ++
      (b.asks.refillMoments asks r.2 now).map (Moment.map ((b.setLadder .bid r.1).setLadder .ask))

theorem restore_course {bids asks : List Level} {id : Int} {r : Book × Pool}
    (h : b.restore bids asks id pool now = .ok r) :
    Course size (b.elsewhere pool) pool (b.restoreMoments bids asks pool now) r.2 := by
  unfold restore at h
  unfold restoreMoments
  cases hsides : b.intakeSides bids asks with
  | error fault => simp [hsides] at h
  | ok sides =>
    rw [hsides] at h
    obtain rfl := Except.ok.inj h
    have hbids := b.setLadder_course .bid (b.bids.refill_course sides.1 pool now)
    have hasks := (b.setLadder .bid (b.bids.refill sides.1 pool now).1).setLadder_course .ask
      (b.asks.refill_course sides.2 (b.bids.refill sides.1 pool now).2 now)
    have hout : (b.setLadder .bid (b.bids.refill sides.1 pool now).1).elsewhere
        (b.bids.refill sides.1 pool now).2 = b.elsewhere pool :=
      setLadder_elsewhere (b.bids.refill_elsewhere sides.1 pool now)
    rw [hout] at hasks
    exact hbids.append hasks

end Book

namespace Channel

/-- The moments of held messages that are applied to a book just restored. -/
def replayMoments (b : Book) (id : Int) (pool : Pool) (clock : Nat → Instant) (replayed : Nat) :
    List Delta → List (Moment Book)
  | [] => []
  | d :: rest =>
    if d.id ≤ id then replayMoments b id pool clock replayed rest
    else
      let r := b.applyDelta d pool (clock (replayed + 1))
      b.deltaMoments d pool (clock (replayed + 1)) ++
        match r.error with
        | none => replayMoments r.book id r.pool clock (replayed + 1) rest
        | some _ => []

def snapshotMoments (c : Channel) (s : Snapshot) (pool : Pool) (clock : Nat → Instant) :
    List (Moment Book) :=
  match c.book.restore s.bids s.asks s.id pool (clock 0) with
  | .error _ => []
  | .ok (book, pool') =>
    c.book.restoreMoments s.bids s.asks pool (clock 0) ++
      match s.checksum.map book.compareChecksum with
      | some (.error _) => []
      | _ => replayMoments book s.id pool' clock 0 c.heldInOrder

/-- The moments of a message, at which its book and the pool change. -/
def receiveMoments (c : Channel) (p : Payload) (pool : Pool) (clock : Nat → Instant) :
    List (Moment Book) :=
  match p with
  | .snapshot s => c.snapshotMoments s pool clock
  | .delta d =>
    match c.phase with
    | .synced => c.book.deltaMoments d pool (clock 0)
    | .unsynced | .holding | .awaiting => []

theorem answerError_pool (c : Channel) (pool : Pool) (e : BookError) :
    (c.answerError pool e).pool = pool := by
  unfold answerError
  cases Desync.ofError? e <;> rfl

theorem replay_course (c : Channel) (id : Int) (pool : Pool) (clock : Nat → Instant)
    (replayed stale : Nat) (ds : List Delta) :
    Course Book.size (c.book.elsewhere pool) pool
      (replayMoments c.book id pool clock replayed ds)
      (c.replayHeld id pool clock replayed stale ds).pool := by
  induction ds generalizing c pool replayed stale with
  | nil => exact .done pool
  | cons d rest ih =>
    have hdelta := c.book.delta_course d pool (clock (replayed + 1))
    have hout := c.book.applyDelta_elsewhere d pool (clock (replayed + 1))
    unfold replayMoments replayHeld
    split
    · exact ih c pool replayed (stale + 1)
    · dsimp only
      cases herror : (c.book.applyDelta d pool (clock (replayed + 1))).error with
      | none =>
        rw [← hout] at hdelta ⊢
        let after := { c with book := (c.book.applyDelta d pool (clock (replayed + 1))).book }
        exact hdelta.append (ih after.countApplied _ (replayed + 1) stale)
      | some e =>
        dsimp only
        rw [answerError_pool, List.append_nil]
        exact hdelta

theorem snapshot_course (c : Channel) (s : Snapshot) (pool : Pool) (clock : Nat → Instant) :
    Course Book.size (c.book.elsewhere pool) pool (c.snapshotMoments s pool clock)
      (c.receiveSnapshot s pool clock).pool := by
  unfold snapshotMoments receiveSnapshot
  cases h : c.book.restore s.bids s.asks s.id pool (clock 0) with
  | error e => exact .done pool
  | ok r =>
    have hrestore := Book.restore_course h
    have hout := Book.restore_elsewhere h
    have hreplay (c' : Channel) (hbook : c'.book = r.1) :
        Course Book.size (c.book.elsewhere pool) pool
          (c.book.restoreMoments s.bids s.asks pool (clock 0) ++
            replayMoments r.1 s.id r.2 clock 0 c.heldInOrder)
          (c'.replayHeld s.id r.2 clock 0 0 c.heldInOrder).pool := by
      have hheld := c'.replay_course s.id r.2 clock 0 0 c.heldInOrder
      rw [hbook, hout] at hheld
      exact hrestore.append hheld
    dsimp only
    rcases s.checksum.map r.1.compareChecksum with _ | ⟨e⟩ | ⟨⟩
    · exact hreplay _ rfl
    · dsimp only
      rw [answerError_pool, List.append_nil]
      exact hrestore
    · exact hreplay _ rfl

/-- The moments of a message are the course from the pool before it to the pool after it. -/
theorem receive_course (c : Channel) (p : Payload) (pool : Pool) (clock : Nat → Instant) :
    Course Book.size (c.book.elsewhere pool) pool (c.receiveMoments p pool clock)
      (c.receive p pool clock).pool := by
  cases p with
  | snapshot s => exact c.snapshot_course s pool clock
  | delta d =>
    have hhold : (c.hold d pool).pool = pool := by
      unfold hold
      cases checkChanges d.changes with
      | error e => rfl
      | ok u =>
        dsimp only
        split
        · exact answerError_pool _ _ _
        · rfl
    have hlive : (c.applyLive d pool (clock 0)).pool =
        (c.book.applyDelta d pool (clock 0)).pool := by
      unfold applyLive
      dsimp only
      split
      · rfl
      · exact answerError_pool _ _ _
    unfold receiveMoments receive receiveDelta
    cases c.phase with
    | unsynced => rw [hhold]; exact .done pool
    | holding => rw [hhold]; exact .done pool
    | synced => rw [hlive]; exact c.book.delta_course d pool (clock 0)
    | awaiting => exact .done pool

end Channel

end MarketDepth
