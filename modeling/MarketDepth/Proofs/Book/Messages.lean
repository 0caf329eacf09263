/-
MarketDepth/Proofs/Book/Messages.lean

What a message can do to a book.

Changes move levels and the last number, and nothing else (`Book.Frame`).  When
they fail, they do so in one of two ways.  Either the message is refused before
it touches the book, or it stops half-way; and then it is for an unknown level,
or for the checksum that is compared at the end.  In a book that was restored
the only error that a new snapshot would not heal is that of an invalid level,
and it leaves the book as it was.

A snapshot makes of a book something that depends on its key and its options
only (`Book.load_eq_of_kin`): nothing of what rested there is kept.

Main results: `Book.applyDelta_frame`, `Book.applyDelta_error_cases`,
`Book.applyDelta_lastId_strict` for the numbers of a strictly numbered book, and
`Book.load_ok` for snapshots.
-/
import MarketDepth.Proofs.Nodes

namespace MarketDepth

/-! ### What an edit of a ladder leaves alone -/

namespace Ladder

variable {l : Ladder} {pool : Pool} {now : Instant}

@[simp] theorem vacate_side (place : Place) : (l.vacate place pool now).1.side = l.side := by
  unfold vacate
  cases place.resting <;> rfl

@[simp] theorem setPrice_side (level : Level) : (l.setPrice level pool now).1.side = l.side := by
  unfold setPrice
  split
  · exact vacate_side _
  · dsimp only
    cases (l.place level.price).resting <;> rfl

@[simp] theorem insertId_side (level : Level) : (l.insertId level pool now).1.side = l.side := by
  have h : (l.withoutId pool now level.id).1.side = l.side := by
    cases level.id with
    | none => rfl
    | some id => exact vacate_side _
  rw [insertId_fst]
  dsimp only
  split <;> exact h

theorem amendId_side {id : Int} {level : Level} {r : Edited}
    (h : l.amendId id level pool now = .ok r) : r.1.side = l.side := by
  unfold amendId at h
  dsimp only at h
  cases hx : (l.placeOfId id).resting with
  | none => simp [hx] at h
  | some x =>
    simp only [hx] at h
    split at h
    · obtain rfl := Except.ok.inj h
      exact vacate_side _
    · split at h
      · obtain rfl := Except.ok.inj h
        rfl
      · split at h <;> obtain rfl := Except.ok.inj h <;> rfl

theorem amendId_error {id : Int} {level : Level} {e : BookError}
    (h : l.amendId id level pool now = .error e) : e = .levelNotFound id := by
  unfold amendId at h
  dsimp only at h
  cases hx : (l.placeOfId id).resting with
  | none =>
    simp only [hx, Except.error.injEq] at h
    exact h.symm
  | some x =>
    simp only [hx] at h
    split at h
    · cases h
    · split at h
      · cases h
      · split at h <;> cases h

/-- An action keeps the side of the ladder. -/
theorem apply_side {addressing : Addressing} {action : Action} {r : Edited}
    (h : l.apply addressing action pool now = .ok r) : r.1.side = l.side := by
  cases action with
  | insert level =>
    simp only [apply] at h
    split at h
    · obtain rfl := Except.ok.inj h
      exact insertId_side level
    · obtain rfl := Except.ok.inj h
      exact setPrice_side level
  | amend level =>
    simp only [apply] at h
    split at h
    · exact amendId_side h
    · obtain rfl := Except.ok.inj h
      exact setPrice_side level
  | delete address =>
    cases address <;> obtain rfl := Except.ok.inj h <;> exact vacate_side _

/-- Only an amendment of a level that does not rest can fail. -/
theorem apply_error {addressing : Addressing} {action : Action} {e : BookError}
    (h : l.apply addressing action pool now = .error e) : ∃ id, e = .levelNotFound id := by
  cases action with
  | insert level =>
    simp only [apply] at h
    split at h <;> cases h
  | amend level =>
    simp only [apply] at h
    split at h
    · exact ⟨_, amendId_error h⟩
    · cases h
  | delete address => cases address <;> cases h

end Ladder

namespace Book

variable {b b' b'' : Book} {pool : Pool} {now : Instant}

/-! ### What the changes of a message leave alone -/

/-- The two are one book at different times. -/
structure Kin (b b' : Book) : Prop where
  key : b'.key = b.key
  options : b'.options = b.options
  bidSide : b'.bids.side = b.bids.side
  askSide : b'.asks.side = b.asks.side

theorem Kin.refl (b : Book) : Kin b b := ⟨rfl, rfl, rfl, rfl⟩

theorem Kin.trans (h : Kin b b') (h' : Kin b' b'') : Kin b b'' :=
  ⟨h'.key.trans h.key, h'.options.trans h.options, h'.bidSide.trans h.bidSide,
    h'.askSide.trans h.askSide⟩

theorem Kin.invalidate (b : Book) (reason : String) : Kin b (b.invalidate reason) :=
  ⟨rfl, rfl, rfl, rfl⟩

/-- Between the two, nothing but changes came: no snapshot was loaded, and the
book was not invalidated. -/
structure Frame (b b' : Book) : Prop extends Kin b b' where
  restored : b'.restored = b.restored
  invalidation : b'.invalidation = b.invalidation

theorem Frame.refl (b : Book) : Frame b b := ⟨.refl b, rfl, rfl⟩

theorem Frame.trans (h : Frame b b') (h' : Frame b' b'') : Frame b b'' :=
  ⟨h.toKin.trans h'.toKin, h'.restored.trans h.restored,
    h'.invalidation.trans h.invalidation⟩

theorem setLadder_frame {side : Side} {l : Ladder} (h : l.side = (b.ladder side).side) :
    Frame b (b.setLadder side l) := by
  cases side
  · exact ⟨⟨rfl, rfl, h, rfl⟩, rfl, rfl⟩
  · exact ⟨⟨rfl, rfl, rfl, h⟩, rfl, rfl⟩

theorem setLadder_lastId (side : Side) (l : Ladder) :
    (b.setLadder side l).lastId = b.lastId := by
  cases side <;> rfl

theorem applyChange_ok {c : Change} {r : Book × Pool}
    (h : b.applyChange c pool now = .ok r) : Frame b r.1 ∧ r.1.lastId = b.lastId := by
  unfold applyChange at h
  cases hl : (b.ladder c.side).apply b.options.addressing c.action pool now with
  | error e => simp [hl, Except.map] at h
  | ok q =>
    simp only [hl, Except.map, Except.ok.injEq] at h
    subst h
    exact ⟨setLadder_frame (Ladder.apply_side hl), setLadder_lastId c.side q.1⟩

theorem applyChange_error {c : Change} {e : BookError}
    (h : b.applyChange c pool now = .error e) : ∃ id, e = .levelNotFound id := by
  unfold applyChange at h
  cases hl : (b.ladder c.side).apply b.options.addressing c.action pool now with
  | error e' =>
    simp only [hl, Except.map, Except.error.injEq] at h
    subst h
    exact Ladder.apply_error hl
  | ok q => simp [hl, Except.map] at h

/-- Changes applied in turn keep the frame and the last number, whether or not
one of them stops the others. -/
theorem applyInTurn_frame (b : Book) (pool : Pool) (now : Instant) (cs : List Change) :
    Frame b (b.applyInTurn pool now cs).book ∧
      (b.applyInTurn pool now cs).book.lastId = b.lastId := by
  induction cs generalizing b pool with
  | nil => exact ⟨.refl b, rfl⟩
  | cons c rest ih =>
    unfold applyInTurn
    cases h : b.applyChange c pool now with
    | error e => exact ⟨.refl b, rfl⟩
    | ok r =>
      obtain ⟨hf, hid⟩ := applyChange_ok h
      have hrest := ih r.1 r.2
      exact ⟨hf.trans hrest.1, hrest.2.trans hid⟩

theorem applyInTurn_error {cs : List Change} {e : BookError}
    (h : (b.applyInTurn pool now cs).error = some e) : ∃ id, e = .levelNotFound id := by
  induction cs generalizing b pool with
  | nil => cases h
  | cons c rest ih =>
    unfold applyInTurn at h
    cases hc : b.applyChange c pool now with
    | error e' =>
      simp only [hc, Option.some.injEq] at h
      subst h
      exact applyChange_error hc
    | ok r =>
      simp only [hc] at h
      exact ih h

/-! ### The errors of a message -/

theorem checkNumber_error {id : Int} {e : BookError} (h : b.checkNumber id = .error e) :
    ∃ expected actual, e = .outOfSequence expected actual := by
  unfold checkNumber at h
  split at h
  · cases h
  · split at h
    · obtain rfl := Except.error.inj h
      exact ⟨_, _, rfl⟩
    · split at h
      · cases h
      · obtain rfl := Except.error.inj h
        exact ⟨_, _, rfl⟩

theorem compareChecksum_error {expected : UInt32} {e : BookError}
    (h : b.compareChecksum expected = .error e) : e = .integrity expected b.checksum := by
  unfold compareChecksum at h
  split at h
  · split at h
    · cases h
    · exact (Except.error.inj h).symm
  · cases h

/-- A message that a restored book refuses does not follow the last one, or is
not valid. -/
theorem checkMessage_error {id : Int} {cs : List Change} {e : BookError}
    (hb : b.restored = true) (h : b.checkMessage id cs = .error e) :
    (∃ expected actual, e = .outOfSequence expected actual) ∨ checkChanges cs = .error e := by
  unfold checkMessage at h
  rw [if_pos hb] at h
  cases hn : b.checkNumber id with
  | error e' =>
    simp only [hn, Except.bind, Except.error.injEq] at h
    subst h
    exact .inl (checkNumber_error hn)
  | ok u =>
    simp only [hn, Except.bind] at h
    exact .inr h

theorem checkMessage_ok {id : Int} {cs : List Change} (h : b.checkMessage id cs = .ok ()) :
    b.restored = true ∧ b.checkNumber id = .ok () ∧ checkChanges cs = .ok () := by
  unfold checkMessage at h
  split at h
  case isFalse => cases h
  case isTrue hb =>
    cases hn : b.checkNumber id with
    | error e => simp [hn, Except.bind] at h
    | ok u =>
      simp only [hn, Except.bind] at h
      exact ⟨hb, rfl, h⟩

/-- What the changes of one message do: they are refused and nothing happens,
or they stop at an unknown level, or all of them are in the book. -/
theorem apply_cases (b : Book) (id : Int) (cs : List Change) (pool : Pool) (now : Instant) :
    (∃ e, b.checkMessage id cs = .error e ∧ b.apply id cs pool now = ⟨b, pool, some e⟩) ∨
    (∃ i, (b.apply id cs pool now).error = some (.levelNotFound i)) ∨
    (b.checkMessage id cs = .ok () ∧ (b.apply id cs pool now).error = none ∧
      (b.apply id cs pool now).book.lastId = b.advanceId id) := by
  unfold apply
  cases hm : b.checkMessage id cs with
  | error e => exact .inl ⟨e, rfl, rfl⟩
  | ok u =>
    dsimp only
    cases he : (b.applyInTurn pool now cs).error with
    | some e =>
      obtain ⟨i, rfl⟩ := applyInTurn_error he
      exact .inr (.inl ⟨i, he⟩)
    | none =>
      -- the new last number is computed from the book after the changes
      have hf := b.applyInTurn_frame pool now cs
      refine .inr (.inr ⟨rfl, rfl, ?_⟩)
      dsimp only
      unfold advanceId
      rw [hf.1.options, hf.2]

theorem apply_frame (id : Int) (cs : List Change) :
    Frame b (b.apply id cs pool now).book := by
  unfold apply
  cases b.checkMessage id cs with
  | error e => exact .refl b
  | ok u =>
    have hf := (b.applyInTurn_frame pool now cs).1
    dsimp only
    cases (b.applyInTurn pool now cs).error with
    | some e => exact hf
    | none => exact ⟨⟨hf.key, hf.options, hf.bidSide, hf.askSide⟩, hf.restored, hf.invalidation⟩

/-! ### A message with its checksum -/

/-- The checksum is only read. -/
theorem applyDelta_book (d : Delta) :
    (b.applyDelta d pool now).book = (b.apply d.id d.changes pool now).book := by
  unfold applyDelta
  dsimp only
  split
  · split <;> rfl
  · rfl

theorem applyDelta_frame (d : Delta) : Frame b (b.applyDelta d pool now).book := by
  rw [applyDelta_book]
  exact apply_frame d.id d.changes

/-- A message fails with the error of its changes, or else with that of its checksum. -/
theorem applyDelta_error {d : Delta} {e : BookError}
    (h : (b.applyDelta d pool now).error = some e) :
    b.applyDelta d pool now = b.apply d.id d.changes pool now ∧
        (b.apply d.id d.changes pool now).error = some e ∨
      ∃ expected computed, e = .integrity expected computed := by
  unfold applyDelta at h ⊢
  dsimp only at h ⊢
  split at h
  · split at h
    · exact .inl ⟨rfl, h⟩
    · next hc =>
      obtain rfl := Option.some.inj h
      exact .inr ⟨_, _, compareChecksum_error hc⟩
  · exact .inl ⟨rfl, h⟩

theorem apply_error_of_applyDelta {d : Delta} (h : (b.applyDelta d pool now).error = none) :
    (b.apply d.id d.changes pool now).error = none := by
  unfold applyDelta at h
  dsimp only at h
  split at h
  · next he _ => exact he
  · exact h

/-- A message is taken whole: its number follows, its changes are valid, and the
last number advances. -/
theorem applyDelta_whole {d : Delta} (h : (b.applyDelta d pool now).error = none) :
    b.checkMessage d.id d.changes = .ok () ∧
      (b.applyDelta d pool now).book.lastId = b.advanceId d.id := by
  have he := apply_error_of_applyDelta h
  rw [applyDelta_book]
  obtain ⟨e, -, ha⟩ | ⟨i, hi⟩ | ⟨hm, -, hid⟩ := b.apply_cases d.id d.changes pool now
  · rw [ha] at he
    cases he
  · rw [hi] at he
    cases he
  · exact ⟨hm, hid⟩

/-- In a strictly numbered book a message that is taken has the next number. -/
theorem applyDelta_lastId_strict {d : Delta} (hs : b.options.numbering = .strict)
    (h : (b.applyDelta d pool now).error = none) :
    d.id = b.lastId + 1 ∧ (b.applyDelta d pool now).book.lastId = d.id := by
  obtain ⟨hm, hid⟩ := applyDelta_whole h
  obtain ⟨-, hn, -⟩ := checkMessage_ok hm
  unfold checkNumber at hn
  unfold advanceId at hid
  simp only [hs] at hn hid
  refine ⟨?_, hid⟩
  split at hn
  · cases hn
  · split at hn
    · assumption
    · cases hn

end Book

/-! ### Which errors a snapshot heals -/

theorem Change.check_error {c : Change} {e : BookError} (h : c.check = .error e) :
    ∃ side price amount, e = .invalidLevel side price amount := by
  unfold check at h
  split at h
  · split at h
    · obtain rfl := Except.error.inj h
      exact ⟨_, _, _, rfl⟩
    · cases h
  · cases h

theorem checkChanges_error {cs : List Change} {e : BookError} (h : checkChanges cs = .error e) :
    ∃ side price amount, e = .invalidLevel side price amount := by
  induction cs with
  | nil => cases h
  | cons c rest ih =>
    unfold checkChanges at h
    cases hc : c.check with
    | error e' =>
      simp only [hc, Except.bind, Except.error.injEq] at h
      subst h
      exact Change.check_error hc
    | ok u =>
      simp only [hc, Except.bind] at h
      exact ih h

/-- A restored book answers a message that it does not take with an error that a
snapshot heals; or the message is not valid in itself, no snapshot heals that,
and the message has changed nothing. -/
theorem Book.applyDelta_error_cases {b : Book} {d : Delta} {pool : Pool} {now : Instant}
    {e : BookError} (hb : b.restored = true) (h : (b.applyDelta d pool now).error = some e) :
    (∃ reason, Desync.ofError? e = some reason) ∨
      (Desync.ofError? e = none ∧ checkChanges d.changes = .error e ∧
        (b.applyDelta d pool now).book = b ∧ (b.applyDelta d pool now).pool = pool) := by
  obtain ⟨heq, he⟩ | ⟨x, y, rfl⟩ := applyDelta_error h
  · rw [heq]
    obtain ⟨e', hm, ha⟩ | ⟨i, hi⟩ | ⟨-, hn, -⟩ := b.apply_cases d.id d.changes pool now
    · rw [ha] at he
      obtain rfl := Option.some.inj he
      obtain ⟨x, y, rfl⟩ | hv := checkMessage_error hb hm
      · exact .inl ⟨_, rfl⟩
      · -- the one error that stays: it was found before anything was changed
        obtain ⟨side, price, amount, rfl⟩ := checkChanges_error hv
        rw [ha]
        exact .inr ⟨rfl, hv, rfl, rfl⟩
    · rw [hi] at he
      obtain rfl := Option.some.inj he
      exact .inl ⟨_, rfl⟩
    · rw [hn] at he
      cases he
  · exact .inl ⟨_, rfl⟩

/-! ### Loading a snapshot -/

namespace Book

variable {b b' : Book} {s : Snapshot}

theorem intakeSides_eq (h : b'.options = b.options) (bids asks : List Level) :
    b'.intakeSides bids asks = b.intakeSides bids asks := by
  unfold intakeSides intake
  rw [h]

/-- What a snapshot makes of a book depends on nothing that rests there. -/
theorem load_eq_of_kin (h : Kin b b') : b'.load s = b.load s := by
  unfold load
  rw [intakeSides_eq h.options]
  split
  · rfl
  · simp only [h.key, h.options, h.bidSide, h.askSide]

theorem load_ok (h : b.load s = .ok b') :
    Kin b b' ∧ b'.restored = true ∧ b'.invalidation = none ∧ b'.lastId = s.id := by
  unfold load at h
  split at h
  · cases h
  · obtain rfl := Except.ok.inj h
    exact ⟨⟨rfl, rfl, rfl, rfl⟩, rfl, rfl, rfl⟩

end Book

end MarketDepth
