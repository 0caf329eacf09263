/-
MarketDepth/Proofs/Channel/Effect.lean

All that one message can do to a channel.

`c.Effect p c' outcome` has one rule for each way in which a message ends, and
says of each when it happens, what the channel is then and what the outcome is.
The held messages that a snapshot drains stand in it as two lists: those that
the snapshot covers, and those that it does not, in the order of their numbers.

`Channel.receive_effect` says that receiving a message is one of these effects.
It needs of the channel only that its book was restored if it is synced, and that
the messages that it holds are valid (`Channel.Ready`): then no drain and no live
message ends in an error that a snapshot would not heal.  What is shown of every
effect is thereby shown of every message.
-/
import MarketDepth.Proofs.Book.Takes

namespace MarketDepth

/-- The checksum that a snapshot may carry is that of the book, as far as the
book looks at it. -/
def Book.Matches (b : Book) (checksum : Option UInt32) : Prop :=
  ∀ expected ∈ checksum, b.compareChecksum expected = .ok ()

namespace Channel

variable {c : Channel} {pool : Pool} {clock : Nat → Instant}

/-! ### The held messages that a snapshot meets -/

/-- The held messages that the snapshot with number `id` covers. -/
def staleHeld (c : Channel) (id : Int) : List Delta := c.heldInOrder.filter (·.id ≤ id)

/-- The held messages that come after the snapshot with number `id`. -/
def freshHeld (c : Channel) (id : Int) : List Delta := c.heldInOrder.filter (id < ·.id)

theorem heldInOrder_perm (c : Channel) : c.heldInOrder.Perm c.held :=
  List.mergeSort_perm c.held _

theorem byNumber_trans (a b c : Delta) (hab : decide (a.id ≤ b.id) = true)
    (hbc : decide (b.id ≤ c.id) = true) : decide (a.id ≤ c.id) = true := by
  simp only [decide_eq_true_eq] at *
  omega

theorem byNumber_total (a b : Delta) : (decide (a.id ≤ b.id) || decide (b.id ≤ a.id)) = true := by
  simp only [Bool.or_eq_true, decide_eq_true_eq]
  omega

theorem heldInOrder_sorted (c : Channel) : c.heldInOrder.Pairwise (·.id ≤ ·.id) :=
  (List.pairwise_mergeSort byNumber_trans byNumber_total c.held).imp of_decide_eq_true

theorem sorted_split {ds : List Delta} (h : ds.Pairwise (·.id ≤ ·.id)) (id : Int) :
    ds = ds.filter (·.id ≤ id) ++ ds.filter (id < ·.id) := by
  induction ds with
  | nil => rfl
  | cons d ds ih =>
    obtain ⟨hd, hds⟩ := List.pairwise_cons.mp h
    by_cases hle : d.id ≤ id
    · have hlt : ¬id < d.id := by omega
      simp only [List.filter_cons, hle, hlt, decide_true, decide_false, if_true,
        Bool.false_eq_true, if_false, List.cons_append]
      exact congrArg (d :: ·) (ih hds)
    · have hlt : id < d.id := by omega
      have hstale : ds.filter (·.id ≤ id) = [] := by
        rw [List.filter_eq_nil_iff]
        intro e he
        have := hd e he
        simp only [decide_eq_true_eq]
        omega
      have hfresh : ds.filter (id < ·.id) = ds := by
        rw [List.filter_eq_self]
        intro e he
        have := hd e he
        simp only [decide_eq_true_eq]
        omega
      simp [hle, hlt, hstale, hfresh]

theorem heldInOrder_eq (c : Channel) (id : Int) :
    c.heldInOrder = c.staleHeld id ++ c.freshHeld id :=
  sorted_split c.heldInOrder_sorted id

/-- There is one way to order messages whose numbers differ. -/
theorem eq_of_perm_of_sorted {ds es : List Delta} (hperm : ds.Perm es)
    (hds : ds.Pairwise (·.id ≤ ·.id)) (hes : es.Pairwise (·.id < ·.id)) : ds = es := by
  have hne : ds.Pairwise (·.id ≠ ·.id) := by
    refine (hes.imp ?_).perm hperm.symm fun h => Ne.symm h
    intro a b hab
    omega
  have hlt : ds.Pairwise (·.id < ·.id) := by
    refine hds.imp₂ ?_ hne
    intro a b hle hne
    omega
  refine hperm.eq_of_pairwise ?_ hlt hes
  intro a b _ _ hab hba
  omega

theorem heldInOrder_eq_of_sorted {ds : List Delta} (hperm : c.held.Perm ds)
    (hds : ds.Pairwise (·.id < ·.id)) : c.heldInOrder = ds :=
  eq_of_perm_of_sorted (c.heldInOrder_perm.trans hperm) c.heldInOrder_sorted hds

theorem mem_freshHeld {id : Int} {d : Delta} :
    d ∈ c.freshHeld id ↔ d ∈ c.held ∧ id < d.id := by
  simp only [freshHeld, List.mem_filter, c.heldInOrder_perm.mem_iff, decide_eq_true_eq]

/-! ### Effects -/

/-- The channel with the book `b`, restored from a snapshot and after `n` held messages. -/
def reload (c : Channel) (b : Book) (n : Nat) : Channel :=
  { c with
    book := b
    held := []
    stats := { c.stats with
      snapshots := c.stats.snapshots + 1
      applied := c.stats.applied + n } }

/-- What one message can do to a channel, and what becomes of the message. -/
inductive Effect (c : Channel) : Payload → Channel → Except BookError Outcome → Prop
  /-- A snapshot with wrong levels changes nothing. -/
  | refused {s : Snapshot} {e : BookError} (load : c.book.load s = .error e) :
      Effect c (.snapshot s) c (.error e)
  /-- A snapshot with a wrong checksum is loaded and given up again, and what was
  held for it with it. -/
  | mismatched {s : Snapshot} {b : Book} {expected : UInt32} (load : c.book.load s = .ok b)
      (carried : s.checksum = some expected)
      (wrong : b.compareChecksum expected = .error (.integrity expected b.checksum)) :
      Effect c (.snapshot s) ((c.reload b 0).desync (.checksumMismatch expected b.checksum))
        (.ok (.desynced (.checksumMismatch expected b.checksum)))
  /-- A snapshot is loaded, and the book takes all that was held for it. -/
  | drained {s : Snapshot} {b b' : Book} (load : c.book.load s = .ok b)
      (checked : b.Matches s.checksum) (takes : b.TakesAll (c.freshHeld s.id) b') :
      Effect c (.snapshot s)
        { (c.reload b' (c.freshHeld s.id).length).countDiscarded (c.staleHeld s.id).length with
          phase := .synced }
        (.ok (.synced (c.freshHeld s.id).length (c.staleHeld s.id).length))
  /-- A snapshot is loaded, and the book fails on one of the messages that were
  held for it.  Those after it, `rest`, are dropped. -/
  | stopped {s : Snapshot} {b b₁ b' : Book} {taken rest : List Delta} {d : Delta}
      {reason : Desync} (load : c.book.load s = .ok b) (checked : b.Matches s.checksum)
      (fresh : c.freshHeld s.id = taken ++ d :: rest) (takes : b.TakesAll taken b₁)
      (fails : b₁.FailsOn d b' reason) :
      Effect c (.snapshot s)
        (((c.reload b' taken.length).countDiscarded (c.staleHeld s.id).length).desync reason)
        (.ok (.desynced reason))
  /-- Changes that are not valid change nothing. -/
  | invalid {d : Delta} {e : BookError} (listens : c.phase ≠ .awaiting)
      (check : checkChanges d.changes = .error e) : Effect c (.delta d) c (.error e)
  /-- Changes wait for a snapshot. -/
  | waits {d : Delta} (early : c.phase = .unsynced ∨ c.phase = .holding)
      (check : checkChanges d.changes = .ok ()) (room : c.held.length < c.holdLimit) :
      Effect c (.delta d)
        { c with
          held := c.held ++ [d]
          phase := .holding
          stats := { c.stats with held := c.stats.held + 1 } }
        (.ok .held)
  /-- One message too many waits for a snapshot, and all of them are dropped. -/
  | overflows {d : Delta} (early : c.phase = .unsynced ∨ c.phase = .holding)
      (check : checkChanges d.changes = .ok ()) (full : c.holdLimit ≤ c.held.length) :
      Effect c (.delta d)
        ((c.countDiscarded (c.held.length + 1)).desync (.tooManyHeld c.holdLimit))
        (.ok (.desynced (.tooManyHeld c.holdLimit)))
  /-- The book takes changes as they come. -/
  | applied {d : Delta} {b' : Book} (synced : c.phase = .synced) (takes : c.book.Takes d b') :
      Effect c (.delta d) { c with book := b' }.countApplied (.ok .applied)
  /-- The book fails on changes as they come. -/
  | failed {d : Delta} {b' : Book} {reason : Desync} (synced : c.phase = .synced)
      (fails : c.book.FailsOn d b' reason) :
      Effect c (.delta d) ({ c with book := b' }.desync reason) (.ok (.desynced reason))
  /-- Changes are dropped while the book waits for a new snapshot. -/
  | dropped {d : Delta} (awaiting : c.phase = .awaiting) :
      Effect c (.delta d) (c.countDiscarded 1) (.ok .discarded)

/-- A channel is ready for a message if its book was restored when it is synced,
and what it holds is valid. -/
structure Ready (c : Channel) : Prop where
  restored : c.phase = .synced → c.book.restored = true
  valid : ∀ d ∈ c.held, checkChanges d.changes = .ok ()

/-! ### What every effect leaves alone -/

namespace Effect

variable {p : Payload} {c' : Channel} {o : Except BookError Outcome}

theorem kin (h : c.Effect p c' o) : c.book.Kin c'.book := by
  cases h with
  | refused | invalid | waits | dropped => exact .refl _
  | overflows => exact .invalidate _ _
  | mismatched load => exact (Book.load_ok load).1.trans (.invalidate _ _)
  | drained load _ takes => exact (Book.load_ok load).1.trans takes.frame.toKin
  | stopped load _ _ takes fails =>
    have hfails := takes.frame.toKin.trans fails.frame.toKin
    exact (Book.load_ok load).1.trans (hfails.trans (.invalidate _ _))
  | applied _ takes => exact takes.frame.toKin
  | failed _ fails => exact fails.frame.toKin.trans (.invalidate _ _)

theorem holdLimit (h : c.Effect p c' o) : c'.holdLimit = c.holdLimit := by
  cases h <;> rfl

end Effect

/-! ### Draining -/

/-- Messages that the snapshot covers are counted and passed over. -/
theorem replayHeld_stale {id : Int} {replayed stale : Nat} {ds rest : List Delta}
    (h : ∀ d ∈ ds, d.id ≤ id) :
    c.replayHeld id pool clock replayed stale (ds ++ rest) =
      c.replayHeld id pool clock replayed (stale + ds.length) rest := by
  induction ds generalizing stale with
  | nil => rfl
  | cons d ds ih =>
    obtain ⟨hd, hds⟩ := List.forall_mem_cons.mp h
    rw [List.cons_append, replayHeld, if_pos hd, ih hds, List.length_cons]
    congr 1
    omega

/-- Messages that the book takes are counted and applied. -/
theorem replayHeld_takesAll {b' : Book} {id : Int} {replayed stale : Nat} {ds rest : List Delta}
    (h : ∀ d ∈ ds, id < d.id) (htakes : c.book.TakesAll ds b') :
    (c.replayHeld id pool clock replayed stale (ds ++ rest)).result =
      (replayHeld { c with
          book := b'
          stats := { c.stats with applied := c.stats.applied + ds.length } }
        id pool clock (replayed + ds.length) stale rest).result := by
  generalize hb : c.book = b at htakes
  induction htakes generalizing c replayed pool with
  | nil b =>
    subst hb
    rfl
  | @cons b b₁ b' d ds hd _ ih =>
    subst hb
    obtain ⟨hlt, hlts⟩ := List.forall_mem_cons.mp h
    rw [List.cons_append, replayHeld, if_neg (by omega)]
    simp only [hd.error, hd.book]
    refine (replayHeld_result_eq _ _ pool _ clock _ _ _ _).trans ?_
    refine (ih (c := { c with book := b₁ }.countApplied) hlts rfl).trans ?_
    have hlen : ∀ n : Nat, n + 1 + ds.length = n + (ds.length + 1) := by omega
    simp only [countApplied, List.length_cons, hlen]

/-- A message on which the book fails ends the drain. -/
theorem replayHeld_failsOn {b' : Book} {id : Int} {replayed stale : Nat} {d : Delta}
    {rest : List Delta} {reason : Desync} (h : id < d.id) (hfail : c.book.FailsOn d b' reason) :
    (c.replayHeld id pool clock replayed stale (d :: rest)).result =
      (({ c with book := b' }.countDiscarded stale).desync reason, .ok (.desynced reason)) := by
  obtain ⟨e, herr, hheal⟩ := hfail.error pool (clock (replayed + 1))
  rw [replayHeld, if_neg (by omega)]
  simp only [herr, hfail.book, answerError, hheal, Step.result]

/-! ### Receiving -/

theorem Effect.of_result {p : Payload} {step : Step} {c' : Channel}
    {o : Except BookError Outcome} (h : step.result = (c', o)) (he : c.Effect p c' o) :
    c.Effect p step.channel step.outcome := by
  obtain ⟨rfl, rfl⟩ : step.channel = c' ∧ step.outcome = o := Prod.mk.inj h
  exact he

/-- Draining what was held into a book just restored either applies all of it
that the snapshot does not cover, or ends at a message on which the book fails. -/
theorem drain_effect {s : Snapshot} {b : Book} (hready : c.Ready) (hload : c.book.load s = .ok b)
    (hsum : b.Matches s.checksum) :
    Effect c (.snapshot s)
      (replayHeld (c.reload b 0) s.id pool clock 0 0 c.heldInOrder).channel
      (replayHeld (c.reload b 0) s.id pool clock 0 0 c.heldInOrder).outcome := by
  have hrestored : b.restored = true := (Book.load_ok hload).2.1
  have hstale : ∀ d ∈ c.staleHeld s.id, d.id ≤ s.id := by
    intro d hd
    exact of_decide_eq_true (List.mem_filter.mp hd).2
  have hfresh : ∀ d ∈ c.freshHeld s.id, s.id < d.id := fun d hd => (mem_freshHeld.mp hd).2
  have hvalid : ∀ d ∈ c.freshHeld s.id, checkChanges d.changes = .ok () :=
    fun d hd => hready.valid d (mem_freshHeld.mp hd).1
  rw [c.heldInOrder_eq s.id, replayHeld_stale hstale, Nat.zero_add]
  obtain ⟨b', htakes⟩ | ⟨taken, d, rest, b₁, b', reason, hsplit, htakes, hfails⟩ :=
    Book.takesAll_or_stops hrestored hvalid
  · refine .of_result ?_ (.drained hload hsum htakes)
    rw [← List.append_nil (c.freshHeld s.id)]
    refine (replayHeld_takesAll (c := c.reload b 0) (by simpa using hfresh) htakes).trans ?_
    simp [replayHeld, Step.result, reload, countDiscarded]
  · refine .of_result ?_ (.stopped hload hsum hsplit htakes hfails)
    rw [hsplit] at hfresh ⊢
    obtain ⟨htaken, hd⟩ : (∀ d ∈ taken, s.id < d.id) ∧ s.id < d.id :=
      ⟨fun d hd => hfresh d (by simp [hd]), hfresh d (by simp)⟩
    refine (replayHeld_takesAll (c := c.reload b 0) htaken htakes).trans ?_
    refine (replayHeld_failsOn hd hfails).trans ?_
    simp [reload, countDiscarded]

theorem receiveSnapshot_effect (hready : c.Ready) (s : Snapshot) :
    Effect c (.snapshot s) (c.receiveSnapshot s pool clock).channel
      (c.receiveSnapshot s pool clock).outcome := by
  have hload := c.book.restore_map_fst pool (clock 0) s
  unfold receiveSnapshot
  cases hr : c.book.restore s.bids s.asks s.id pool (clock 0) with
  | error e =>
    simp only [hr, Except.map] at hload
    exact .refused hload.symm
  | ok r =>
    obtain ⟨b, p⟩ := r
    simp only [hr, Except.map] at hload
    dsimp only
    split
    · next e hsum =>
      obtain ⟨expected, hcarried, hwrong⟩ := Option.map_eq_some_iff.mp hsum
      obtain rfl := Book.compareChecksum_error hwrong
      exact .mismatched hload.symm hcarried hwrong
    · next hsum =>
      have hmatches : b.Matches s.checksum := by
        intro expected hcarried
        cases hc : b.compareChecksum expected with
        | ok u => rfl
        | error e =>
          exact absurd (Option.map_eq_some_iff.mpr ⟨expected, hcarried, hc⟩) (hsum e)
      exact drain_effect hready hload.symm hmatches

theorem hold_effect {d : Delta} (early : c.phase = .unsynced ∨ c.phase = .holding) :
    Effect c (.delta d) (c.hold d pool).channel (c.hold d pool).outcome := by
  unfold hold
  cases hcheck : checkChanges d.changes with
  | error e =>
    have hlistens : c.phase ≠ .awaiting := by
      rcases early with h | h <;> simp [h]
    exact .invalid hlistens hcheck
  | ok u =>
    dsimp only
    split
    · next hfull => exact .overflows early hcheck hfull
    · next hroom => exact .waits early hcheck (Nat.lt_of_not_le hroom)

theorem applyLive_effect {d : Delta} {now : Instant} (hready : c.Ready)
    (synced : c.phase = .synced) :
    Effect c (.delta d) (c.applyLive d pool now).channel (c.applyLive d pool now).outcome := by
  unfold applyLive
  dsimp only
  cases herr : (c.book.applyDelta d pool now).error with
  | none => exact .applied synced (Book.takes_of_error_none herr)
  | some e =>
    obtain ⟨reason, hheal⟩ | ⟨hheal, hcheck, hbook, -⟩ :=
      Book.applyDelta_error_cases (hready.restored synced) herr
    · simp only [answerError, hheal]
      exact .failed synced (Book.failsOn_of_error_some herr hheal)
    · simp only [answerError, hheal, hbook]
      exact .invalid (by simp [synced]) hcheck

/-- Receiving a message has one of the effects that a message can have. -/
theorem receive_effect (hready : c.Ready) (p : Payload) (pool : Pool) (clock : Nat → Instant) :
    c.Effect p (c.receive p pool clock).channel (c.receive p pool clock).outcome := by
  cases p with
  | snapshot s => exact receiveSnapshot_effect hready s
  | delta d =>
    unfold receive receiveDelta
    cases hphase : c.phase with
    | unsynced => exact hold_effect (.inl hphase)
    | holding => exact hold_effect (.inr hphase)
    | synced => exact applyLive_effect hready hphase
    | awaiting => exact .dropped hphase

end Channel

end MarketDepth
