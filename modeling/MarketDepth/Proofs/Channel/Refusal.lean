/-
MarketDepth/Proofs/Channel/Refusal.lean

Messages that are refused.

A message is answered with an error only for what is wrong in itself: a snapshot
for its levels, changes for a level that they may not set.  `c.Refuses p e` lists
when this happens.  Everything else that can go wrong makes the channel give the
book up, which is an outcome and no error.

A refused message changes nothing, neither the channel nor the pool.  In
particular the messages that are held when a snapshot comes are never lost to an
error: a snapshot is refused before they are looked at, and they were themselves
checked when they came, so none of them is refused when its turn comes.

Main result: `Channel.refusal_of_run`.
-/
import MarketDepth.Proofs.Channel.Phase
import MarketDepth.Proofs.Ladder.Sound

namespace MarketDepth

/-! ### Messages that a book refuses -/

namespace Book

variable {b : Book} {d : Delta} {pool : Pool} {now : Instant} {e : BookError}

/-- A message that does not pass the checks changes nothing. -/
theorem applyDelta_of_checkMessage_error (h : b.checkMessage d.id d.changes = .error e) :
    b.applyDelta d pool now = ⟨b, pool, some e⟩ := by
  unfold applyDelta apply
  rw [h]

/-- The error that no snapshot heals is that of changes which are not valid, in a
message that follows the last one. -/
theorem applyDelta_unhealed (hb : b.restored = true)
    (h : (b.applyDelta d pool now).error = some e) (hheal : Desync.ofError? e = none) :
    b.checkNumber d.id = .ok () ∧ checkChanges d.changes = .error e := by
  obtain ⟨reason, hreason⟩ | ⟨-, hcheck, -⟩ := applyDelta_error_cases hb h
  · rw [hheal] at hreason
    cases hreason
  · refine ⟨?_, hcheck⟩
    cases hn : b.checkNumber d.id with
    | ok u => rfl
    | error e' =>
      -- the number is looked at first, and a snapshot heals a gap
      have hm : b.checkMessage d.id d.changes = .error e' := by
        rw [checkMessage, if_pos hb, hn]
        rfl
      rw [applyDelta_of_checkMessage_error hm] at h
      obtain rfl := Option.some.inj h
      obtain ⟨expected, actual, rfl⟩ := checkNumber_error hn
      cases hheal

end Book

/-- The error says what is wrong with the message: what the fault of a snapshot is,
or which level its changes may not set. -/
def BookError.Blames (e : BookError) : Payload → Prop
  | .snapshot _ => ∃ fault : SnapshotFault, e = .invalidSnapshot fault.message
  | .delta d => ∃ change ∈ d.changes, ∃ level, change.action.Sets level ∧ ¬level.Settable ∧
      e = .invalidLevel change.side level.price level.amount

namespace Channel

variable {c : Channel} {p : Payload} {pool : Pool} {clock : Nat → Instant} {e : BookError}

/-! ### When a message is refused -/

/-- The channel refuses a message with an error. -/
inductive Refuses (c : Channel) : Payload → BookError → Prop
  /-- The book does not take the levels of a snapshot. -/
  | snapshot {s : Snapshot} {fault : SnapshotFault}
      (intake : c.book.intakeSides s.bids s.asks = .error fault) :
      Refuses c (.snapshot s) (.invalidSnapshot fault.message)
  /-- Changes that would have to be held are not valid. -/
  | early {d : Delta} {e : BookError} (early : c.phase = .unsynced ∨ c.phase = .holding)
      (check : checkChanges d.changes = .error e) : Refuses c (.delta d) e
  /-- Changes that follow the last ones are not valid. -/
  | live {d : Delta} {e : BookError} (synced : c.phase = .synced)
      (follows : c.book.checkNumber d.id = .ok ())
      (check : checkChanges d.changes = .error e) : Refuses c (.delta d) e

theorem Refuses.blames (h : c.Refuses p e) : e.Blames p := by
  cases h with
  | snapshot => exact ⟨_, rfl⟩
  | early _ check | live _ _ check =>
    obtain ⟨before, change, after, hchanges, -, hchange⟩ := checkChanges_eq_error_iff.mp check
    exact ⟨change, by simp [hchanges], Change.check_eq_error_iff.mp hchange⟩

/-- A refused message changes neither the channel nor the pool. -/
theorem receive_of_refuses (hready : c.Ready) (h : c.Refuses p e) :
    c.receive p pool clock = ⟨c, pool, .error e⟩ := by
  cases h with
  | @snapshot s fault intake =>
    show c.receiveSnapshot s pool clock = _
    have hrestore : c.book.restore s.bids s.asks s.id pool (clock 0) =
        .error (.invalidSnapshot fault.message) := by
      rw [Book.restore, intake]
    rw [receiveSnapshot, hrestore]
  | @early d e early check =>
    have hhold : c.hold d pool = ⟨c, pool, .error e⟩ := by
      rw [hold, check]
    rcases early with hphase | hphase
    · simp only [receive, receiveDelta, hphase, hhold]
    · simp only [receive, receiveDelta, hphase, hhold]
  | @live d e synced follows check =>
    show c.receiveDelta d pool clock = _
    have hmessage : c.book.checkMessage d.id d.changes = .error e := by
      rw [Book.checkMessage, if_pos (hready.restored synced), follows]
      exact check
    obtain ⟨side, price, amount, rfl⟩ := checkChanges_error check
    have hlive : c.applyLive d pool (clock 0) =
        ⟨c, pool, .error (.invalidLevel side price amount)⟩ := by
      rw [applyLive, Book.applyDelta_of_checkMessage_error hmessage]
      rfl
    simp only [receiveDelta, synced, hlive]

/-! ### Nothing else is refused -/

/-- An answer is an error only if a snapshot does not heal it. -/
theorem answerError_outcome_eq_error {e' : BookError}
    (h : (c.answerError pool e').outcome = .error e) : e' = e ∧ Desync.ofError? e = none := by
  unfold answerError at h
  cases hheal : Desync.ofError? e' with
  | some reason => simp [hheal] at h
  | none =>
    rw [hheal] at h
    obtain rfl := Except.error.inj h
    exact ⟨rfl, hheal⟩

theorem checkChanges_of_hold_error {d : Delta} (h : (c.hold d pool).outcome = .error e) :
    checkChanges d.changes = .error e := by
  unfold hold at h
  cases hcheck : checkChanges d.changes with
  | error e' =>
    rw [hcheck] at h
    exact congrArg _ (Except.error.inj h)
  | ok u =>
    rw [hcheck] at h
    dsimp only at h
    split at h
    · -- too many messages are no error of this one
      obtain ⟨rfl, hheal⟩ := answerError_outcome_eq_error h
      cases hheal
    · cases h

theorem refuses_of_applyLive_error {d : Delta} {now : Instant} (hready : c.Ready)
    (synced : c.phase = .synced) (h : (c.applyLive d pool now).outcome = .error e) :
    c.Refuses (.delta d) e := by
  unfold applyLive at h
  dsimp only at h
  cases herr : (c.book.applyDelta d pool now).error with
  | none => simp [herr] at h
  | some e' =>
    rw [herr] at h
    obtain ⟨rfl, hheal⟩ := answerError_outcome_eq_error h
    obtain ⟨follows, check⟩ := Book.applyDelta_unhealed (hready.restored synced) herr hheal
    exact .live synced follows check

/-- Once a snapshot is loaded, nothing that was held for it ends in an error. -/
theorem refuses_of_snapshot_error {s : Snapshot} (hready : c.Ready)
    (h : (c.receiveSnapshot s pool clock).outcome = .error e) : c.Refuses (.snapshot s) e := by
  have heffect : c.Effect (.snapshot s) (c.receiveSnapshot s pool clock).channel
      (c.receiveSnapshot s pool clock).outcome := receiveSnapshot_effect hready s
  rw [h] at heffect
  generalize (c.receiveSnapshot s pool clock).channel = c' at heffect
  cases heffect with
  | refused load =>
    unfold Book.load at load
    cases hintake : c.book.intakeSides s.bids s.asks with
    | error fault =>
      rw [hintake] at load
      obtain rfl := Except.error.inj load
      exact .snapshot hintake
    | ok sides => simp [hintake] at load

/-- **When a message is answered with an error**: exactly when it is refused. -/
theorem receive_outcome_eq_error_iff (hready : c.Ready) :
    (c.receive p pool clock).outcome = .error e ↔ c.Refuses p e := by
  constructor
  · intro h
    cases p with
    | snapshot s => exact refuses_of_snapshot_error hready h
    | delta d =>
      simp only [receive, receiveDelta] at h
      cases hphase : c.phase with
      | unsynced =>
        rw [hphase] at h
        exact .early (.inl hphase) (checkChanges_of_hold_error h)
      | holding =>
        rw [hphase] at h
        exact .early (.inr hphase) (checkChanges_of_hold_error h)
      | synced =>
        rw [hphase] at h
        exact refuses_of_applyLive_error hready hphase h
      | awaiting =>
        rw [hphase] at h
        cases h
  · intro h
    rw [receive_of_refuses hready h]

/-- **Errors change nothing**, after any run of a new channel.  A message is
answered with an error exactly if the channel refuses it, which it does for what
the error says is wrong with the message itself; then the channel and the pool stay
as they were.  A snapshot that the book loads is never answered with an error,
whatever was held for it. -/
theorem refusal_of_run (key : Key) (options : Options) (limit : Nat) (as : List Arrival)
    (a : Arrival) :
    let c := (empty key options limit).run as
    let step := c.take a
    (∀ e, step.outcome = .error e ↔ c.Refuses a.payload e) ∧
    (∀ e, step.outcome = .error e → step.channel = c ∧ step.pool = a.pool ∧
      e.Blames a.payload) ∧
    ∀ s r, a.payload = .snapshot s →
      c.book.restore s.bids s.asks s.id a.pool (a.clock 0) = .ok r →
      ∃ o, step.outcome = .ok o := by
  intro c step
  have hready : c.Ready := (run_legal (legal_empty key options limit) as).ready
  have hiff : ∀ e, step.outcome = .error e ↔ c.Refuses a.payload e :=
    fun e => receive_outcome_eq_error_iff hready
  refine ⟨hiff, ?_, ?_⟩
  · intro e h
    have hrefuses := (hiff e).mp h
    have hstep : step = ⟨c, a.pool, .error e⟩ := receive_of_refuses hready hrefuses
    rw [hstep]
    exact ⟨rfl, rfl, hrefuses.blames⟩
  · intro s r hs hr
    cases ho : step.outcome with
    | ok o => exact ⟨o, rfl⟩
    | error e =>
      have hrefuses := (hiff e).mp ho
      rw [hs] at hrefuses
      cases hrefuses with
      | snapshot intake =>
        rw [Book.restore, intake] at hr
        cases hr

end Channel

end MarketDepth
