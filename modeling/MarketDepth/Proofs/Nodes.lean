/-
MarketDepth/Proofs/Nodes.lean

Nodes leave no trace.

Every edit takes the pool of nodes and the time, and gives the pool back.  What
it does to the levels, and whether it fails, depends on neither: a drawn node is
written over before it is read.  This is carried from the single edits of a
ladder over the changes of a message and the loading of a snapshot up to a whole
message on a channel.

Main results: `Book.apply_result_eq` and `Book.applyDelta_result_eq` for
changes, `Book.restore_map_fst` for a snapshot, and
`Channel.receive_result_eq` for a message.
-/
import MarketDepth.Channel

namespace MarketDepth

variable {ε α β : Type}

/-- Two computations with the same first components fail together, or succeed
together with the same first component. -/
theorem map_fst_eq_cases {x y : Except ε (α × β)} (h : x.map Prod.fst = y.map Prod.fst) :
    (∃ e, x = .error e ∧ y = .error e) ∨ ∃ a b b', x = .ok (a, b) ∧ y = .ok (a, b') := by
  rcases x with e | ⟨a, b⟩ <;> rcases y with e' | ⟨a', b'⟩ <;>
    simp only [Except.map, reduceCtorEq, Except.error.injEq, Except.ok.injEq] at h
  · subst h
    exact .inl ⟨e, rfl, rfl⟩
  · subst h
    exact .inr ⟨a, b, b', rfl, rfl⟩

/-! ### Edits of a ladder -/

namespace Ladder

variable (l : Ladder) (pool pool' : Pool) (now now' : Instant)

theorem vacate_fst_eq (place : Place) :
    (l.vacate place pool now).1 = (l.vacate place pool' now').1 := by
  unfold vacate
  cases place.resting <;> rfl

theorem setPrice_fst_eq (level : Level) :
    (l.setPrice level pool now).1 = (l.setPrice level pool' now').1 := by
  unfold setPrice
  split
  · exact vacate_fst_eq l pool pool' now now' _
  · dsimp only
    cases (l.place level.price).resting <;> rfl

/-- The ladder on which an insertion puts its level: without the level that has
its number. -/
def withoutId (id : Option Int) : Ladder × Pool :=
  match id with
  | some id => l.removeId id pool now
  | none => (l, pool)

theorem withoutId_fst_eq (id : Option Int) :
    (l.withoutId pool now id).1 = (l.withoutId pool' now' id).1 := by
  cases id with
  | none => rfl
  | some id => exact vacate_fst_eq l pool pool' now now' _

theorem insertId_fst (level : Level) :
    (l.insertId level pool now).1 =
      let m := (l.withoutId pool now level.id).1
      if level.amount.IsZero then m
      else { m with levels := (m.place level.price).put level } := by
  unfold insertId withoutId
  dsimp only
  split
  · rfl
  · split <;> rfl

theorem insertId_fst_eq (level : Level) :
    (l.insertId level pool now).1 = (l.insertId level pool' now').1 := by
  rw [insertId_fst, insertId_fst, withoutId_fst_eq l pool pool' now now']

theorem amendId_map_fst_eq (id : Int) (level : Level) :
    (l.amendId id level pool now).map Prod.fst =
      (l.amendId id level pool' now').map Prod.fst := by
  unfold amendId
  dsimp only
  cases (l.placeOfId id).resting with
  | none => rfl
  | some x =>
    dsimp only
    split
    · exact congrArg Except.ok (vacate_fst_eq l pool pool' now now' _)
    · split
      · rfl
      · split <;> rfl

theorem apply_map_fst_eq (addressing : Addressing) (action : Action) :
    (l.apply addressing action pool now).map Prod.fst =
      (l.apply addressing action pool' now').map Prod.fst := by
  cases action with
  | insert level =>
    unfold apply
    dsimp only
    split
    · exact congrArg Except.ok (insertId_fst_eq l pool pool' now now' level)
    · exact congrArg Except.ok (setPrice_fst_eq l pool pool' now now' level)
  | amend level =>
    unfold apply
    dsimp only
    split
    · exact amendId_map_fst_eq l pool pool' now now' _ level
    · exact congrArg Except.ok (setPrice_fst_eq l pool pool' now now' level)
  | delete address =>
    cases address <;> exact congrArg Except.ok (vacate_fst_eq l pool pool' now now' _)

@[simp] theorem refill_fst (levels : List Level) :
    (l.refill levels pool now).1 = { l with levels } := by
  simp [refill, vacateAll]

end Ladder

/-! ### Messages on a book -/

namespace Book

variable (b : Book) (pool pool' : Pool) (now now' : Instant)

/-- What a reader sees of an edit: the book, and the error that stopped it. -/
def Edited.result (r : Book.Edited) : Book × Option BookError := (r.book, r.error)

theorem Edited.result_eq_iff {r r' : Book.Edited} :
    r.result = r'.result ↔ r.book = r'.book ∧ r.error = r'.error := by
  simp only [result, Prod.mk.injEq]

theorem applyChange_map_fst_eq (c : Change) :
    (b.applyChange c pool now).map Prod.fst = (b.applyChange c pool' now').map Prod.fst := by
  unfold applyChange
  obtain ⟨e, h, h'⟩ | ⟨l, p, p', h, h'⟩ := map_fst_eq_cases
    ((b.ladder c.side).apply_map_fst_eq pool pool' now now' b.options.addressing c.action)
  · rw [h, h']
  · rw [h, h']
    simp only [Except.map]

theorem applyInTurn_result_eq (cs : List Change) :
    (b.applyInTurn pool now cs).result = (b.applyInTurn pool' now' cs).result := by
  induction cs generalizing b pool pool' with
  | nil => rfl
  | cons c rest ih =>
    unfold applyInTurn
    obtain ⟨e, h, h'⟩ | ⟨b₁, p, p', h, h'⟩ :=
      map_fst_eq_cases (b.applyChange_map_fst_eq pool pool' now now' c)
    · rw [h, h']
      rfl
    · rw [h, h']
      exact ih b₁ p p'

theorem apply_result_eq (id : Int) (cs : List Change) :
    (b.apply id cs pool now).result = (b.apply id cs pool' now').result := by
  unfold apply
  cases b.checkMessage id cs with
  | error e => rfl
  | ok u =>
    obtain ⟨hbook, herror⟩ :=
      Edited.result_eq_iff.mp (b.applyInTurn_result_eq pool pool' now now' cs)
    dsimp only
    rw [← herror]
    cases he : (b.applyInTurn pool now cs).error with
    | some e => exact Edited.result_eq_iff.mpr ⟨hbook, herror⟩
    | none => simp only [Edited.result, hbook]

theorem applyDelta_result_eq (d : Delta) :
    (b.applyDelta d pool now).result = (b.applyDelta d pool' now').result := by
  have h := b.apply_result_eq pool pool' now now' d.id d.changes
  obtain ⟨hbook, herror⟩ := Edited.result_eq_iff.mp h
  unfold applyDelta
  dsimp only
  rw [← herror, ← hbook]
  split
  · split
    · exact h
    · rfl
  · exact h

/-- The book with a snapshot loaded, if it is one that the book takes. -/
def load (s : Snapshot) : Except BookError Book :=
  match b.intakeSides s.bids s.asks with
  | .error fault => .error (.invalidSnapshot fault.message)
  | .ok (bids, asks) => .ok { b with
      bids := { b.bids with levels := bids }
      asks := { b.asks with levels := asks }
      lastId := s.id, restored := true, invalidation := none }

theorem restore_map_fst (s : Snapshot) :
    (b.restore s.bids s.asks s.id pool now).map Prod.fst = b.load s := by
  unfold restore load
  cases b.intakeSides s.bids s.asks with
  | error fault => rfl
  | ok sides => simp [Except.map]

/-- A snapshot that the book takes is loaded, whatever the pool and the time. -/
theorem restore_of_load {b b' : Book} {s : Snapshot} (h : b.load s = .ok b') (pool : Pool)
    (now : Instant) : ∃ pool', b.restore s.bids s.asks s.id pool now = .ok (b', pool') := by
  rw [← b.restore_map_fst pool now] at h
  cases hr : b.restore s.bids s.asks s.id pool now with
  | error e =>
    rw [hr] at h
    cases h
  | ok r =>
    rw [hr] at h
    obtain rfl : r.1 = b' := Except.ok.inj h
    exact ⟨r.2, rfl⟩

/-- What a book takes of a snapshot comes to rest in it, in the stead of all that did. -/
theorem restore_of_intakeSides {b : Book} {bids asks bids' asks' : List Level}
    (h : b.intakeSides bids asks = .ok (bids', asks')) (id : Int) (pool : Pool) (now : Instant) :
    ∃ pool', b.restore bids asks id pool now = .ok ({ b with
      bids := { b.bids with levels := bids' }
      asks := { b.asks with levels := asks' }
      lastId := id, restored := true, invalidation := none }, pool') := by
  refine restore_of_load (s := ⟨id, bids, asks, none⟩) ?_ pool now
  unfold load
  rw [h]

/-- A snapshot that is loaded is one that the book takes. -/
theorem load_of_restore {b : Book} {s : Snapshot} {pool : Pool} {now : Instant}
    (h : (b.restore s.bids s.asks s.id pool now).isOk) : ∃ b', b.load s = .ok b' := by
  rw [← b.restore_map_fst pool now]
  cases hr : b.restore s.bids s.asks s.id pool now with
  | error e =>
    rw [hr] at h
    cases h
  | ok r => exact ⟨r.1, rfl⟩

end Book

/-! ### Messages on a channel -/

namespace Channel

/-- What a reader sees of a step: the channel, and what became of the message. -/
def Step.result (s : Step) : Channel × Except BookError Outcome := (s.channel, s.outcome)

variable (c : Channel) (pool pool' : Pool) (clock clock' : Nat → Instant)

theorem answerError_result_eq (e : BookError) :
    (c.answerError pool e).result = (c.answerError pool' e).result := by
  unfold answerError
  cases Desync.ofError? e <;> rfl

theorem replayHeld_result_eq (id : Int) (replayed stale : Nat) (ds : List Delta) :
    (c.replayHeld id pool clock replayed stale ds).result =
      (c.replayHeld id pool' clock' replayed stale ds).result := by
  induction ds generalizing c pool pool' replayed stale with
  | nil => rfl
  | cons d rest ih =>
    unfold replayHeld
    split
    · exact ih c pool pool' replayed (stale + 1)
    · have h := c.book.applyDelta_result_eq pool pool' (clock (replayed + 1))
        (clock' (replayed + 1)) d
      obtain ⟨hbook, herror⟩ := Book.Edited.result_eq_iff.mp h
      dsimp only
      rw [← herror, ← hbook]
      split
      · exact ih _ _ _ (replayed + 1) stale
      · exact answerError_result_eq _ _ _ _

theorem receiveSnapshot_result_eq (s : Snapshot) :
    (c.receiveSnapshot s pool clock).result = (c.receiveSnapshot s pool' clock').result := by
  unfold receiveSnapshot
  have h : (c.book.restore s.bids s.asks s.id pool (clock 0)).map Prod.fst =
      (c.book.restore s.bids s.asks s.id pool' (clock' 0)).map Prod.fst :=
    (c.book.restore_map_fst pool _ s).trans (c.book.restore_map_fst pool' _ s).symm
  obtain ⟨e, h, h'⟩ | ⟨b, p, p', h, h'⟩ := map_fst_eq_cases h
  · rw [h, h']
    rfl
  · rw [h, h']
    dsimp only
    split
    · exact answerError_result_eq _ _ _ _
    · exact replayHeld_result_eq _ _ _ _ _ _ _ _ _

theorem receiveDelta_result_eq (d : Delta) :
    (c.receiveDelta d pool clock).result = (c.receiveDelta d pool' clock').result := by
  have hold_eq : (c.hold d pool).result = (c.hold d pool').result := by
    unfold hold
    cases checkChanges d.changes with
    | error e => rfl
    | ok u =>
      dsimp only
      split
      · exact answerError_result_eq _ _ _ _
      · rfl
  have live_eq : (c.applyLive d pool (clock 0)).result =
      (c.applyLive d pool' (clock' 0)).result := by
    have h := c.book.applyDelta_result_eq pool pool' (clock 0) (clock' 0) d
    obtain ⟨hbook, herror⟩ := Book.Edited.result_eq_iff.mp h
    unfold applyLive
    dsimp only
    rw [← herror, ← hbook]
    split
    · rfl
    · exact answerError_result_eq _ _ _ _
  unfold receiveDelta
  cases c.phase with
  | unsynced => exact hold_eq
  | holding => exact hold_eq
  | synced => exact live_eq
  | awaiting => rfl

/-- **Nodes leave no trace**: neither the pool that a message meets nor the times
of its accesses change what it does to the channel or what becomes of it. -/
theorem receive_result_eq (p : Payload) :
    (c.receive p pool clock).result = (c.receive p pool' clock').result := by
  cases p with
  | snapshot s => exact receiveSnapshot_result_eq c pool pool' clock clock' s
  | delta d => exact receiveDelta_result_eq c pool pool' clock clock' d

end Channel

end MarketDepth
