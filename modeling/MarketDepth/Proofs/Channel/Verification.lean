/-
MarketDepth/Proofs/Channel/Verification.lean

The venue's checksum of live changes.

A verified book compares the venue's checksum with its own once the changes are in it.  The
comparison looks at the order of both sides too, but they are in order whatever came
(`Channel.sound_of_run`), so the checksum alone decides (`Book.compareChecksum_of_sound`).
If it is another, the changes stay in the book and the book is given up: nobody can read it,
whatever comes, until a message brings it in step again, and only a snapshot does that
(`Channel.Waits`, which holds of every channel that gave its book up).

Main result: `Channel.verification_of_run`.
-/
import MarketDepth.Proofs.Book.Stops
import MarketDepth.Proofs.Channel.Calls
import MarketDepth.Proofs.Checksum

namespace MarketDepth

/-! ### The comparison -/

namespace Book

variable {b : Book} {d : Delta} {pool : Pool} {now : Instant} {expected : UInt32}

/-- In a book that is sound, the checksum alone decides. -/
theorem compareChecksum_of_sound (hverify : b.options.verify = true)
    (hsound : b.EachSide SoundOn) :
    b.compareChecksum expected =
      if expected = b.checksum then .ok () else .error (.integrity expected b.checksum) := by
  have hbids : b.bids.isOrdered := (hsound .bid).2.isOrdered
  have hasks : b.asks.isOrdered := (hsound .ask).2.isOrdered
  have hdecides : (b.checksum = expected ∧ b.bids.isOrdered ∧ b.asks.isOrdered) ↔
      expected = b.checksum :=
    ⟨fun h => h.1.symm, fun h => ⟨h.symm, hbids, hasks⟩⟩
  rw [compareChecksum, if_pos hverify]
  simp only [hdecides]

/-- Once its changes are in a verified book, a message fails for its checksum or not at all. -/
theorem applyDelta_of_verified {r : Edited} (hr : b.apply d.id d.changes pool now = r)
    (hverify : b.options.verify = true) (hsound : b.EachSide SoundOn) (herror : r.error = none)
    (hchecksum : d.checksum = some expected) :
    b.applyDelta d pool now =
      if expected = r.book.checksum then r
      else { r with error := some (.integrity expected r.book.checksum) } := by
  have hafter : r.book.EachSide SoundOn := by
    rw [← hr]
    exact perform_sound b ⟨.apply d.id d.changes, pool, now⟩ hsound
  have hoptions : r.book.options.verify = true := by
    rw [← hr, (b.apply_frame d.id d.changes).options]
    exact hverify
  unfold applyDelta
  simp only [hr, herror, hchecksum, compareChecksum_of_sound hoptions hafter]
  by_cases hsame : expected = r.book.checksum
  · rw [if_pos hsame, if_pos hsame]
  · rw [if_neg hsame, if_neg hsame]

end Book

namespace Channel

variable {c c' : Channel} {p : Payload} {o : Except BookError Outcome} {a : Arrival}
variable {as : List Arrival} {reason : String} {replayed stale : Nat}

/-! ### Waiting for a snapshot -/

/-- The message brought the book in step. -/
def Step.Syncs (s : Step) : Prop := ∃ replayed stale, s.outcome = .ok (.synced replayed stale)

/-- The book has been given up, and nobody can read it before it is in step again. -/
structure Waits (c : Channel) (reason : String) : Prop where
  /-- As long as no snapshot is loaded, readers are told the reason, whatever comes. -/
  unloaded : ∀ later, c.loaded later = [] →
    (c.run later).view = .error (.invalidated c.book.key reason)
  /-- As long as no message brings the book in step, readers are told some reason. -/
  unsynced : ∀ later,
    (∀ before a after, later = before ++ a :: after → ¬((c.run before).take a).Syncs) →
      ∃ reason', (c.run later).view = .error (.invalidated c.book.key reason')
  /-- A message that brings the book in step lets readers in again. -/
  synced : ∀ before a, ((c.run before).take a).Syncs →
    ∃ v, (c.run (before ++ [a])).view = .ok v

/-- While a channel waits, a message that loads nothing leaves the book alone. -/
theorem take_of_unloaded (hlegal : c.Legal) (hphase : c.phase = .awaiting)
    (h : c.loads? a = none) :
    (c.take a).channel.book = c.book ∧ (c.take a).channel.phase = .awaiting := by
  obtain ⟨p, pool, clock⟩ := a
  have heffect := take_effect hlegal ⟨p, pool, clock⟩
  generalize (c.take ⟨p, pool, clock⟩).channel = c', (c.take ⟨p, pool, clock⟩).outcome = o
    at heffect ⊢
  cases heffect with
  | refused | dropped => exact ⟨rfl, hphase⟩
  | mismatched load | drained load | stopped load =>
    rw [loads?_of_load_ok load] at h
    cases h
  | invalid listens => exact absurd hphase listens
  | waits early | overflows early => simp [hphase] at early
  | applied synced | failed synced => cases hphase.symm.trans synced

theorem run_of_unloaded (hlegal : c.Legal) (hphase : c.phase = .awaiting)
    (h : c.loaded as = []) : (c.run as).book = c.book ∧ (c.run as).phase = .awaiting := by
  induction as generalizing c with
  | nil => exact ⟨rfl, hphase⟩
  | cons a as ih =>
    obtain ⟨hhead, htail⟩ := List.append_eq_nil_iff.mp h
    obtain ⟨hbook, hnext⟩ := take_of_unloaded hlegal hphase (Option.toList_eq_nil_iff.mp hhead)
    have hrun := ih ((take_effect hlegal a).legal hlegal) hnext htail
    rw [hbook] at hrun
    exact hrun

/-- A channel that waits goes on waiting until a message brings the book in step. -/
theorem Effect.awaiting_or_synced (hphase : c.phase = .awaiting) (he : c.Effect p c' o) :
    c'.phase = .awaiting ∨ ∃ replayed stale, o = .ok (.synced replayed stale) := by
  cases he with
  | refused | dropped => exact .inl hphase
  | mismatched | stopped | overflows | failed => exact .inl rfl
  | drained => exact .inr ⟨_, _, rfl⟩
  | invalid => exact .inl hphase
  | waits early => simp [hphase] at early
  | applied synced => cases hphase.symm.trans synced

theorem run_of_unsynced (hlegal : c.Legal) (hphase : c.phase = .awaiting)
    (h : ∀ before a after, as = before ++ a :: after → ¬((c.run before).take a).Syncs) :
    (c.run as).phase = .awaiting := by
  induction as generalizing c with
  | nil => exact hphase
  | cons a as ih =>
    rcases (take_effect hlegal a).awaiting_or_synced hphase with hnext | hsyncs
    · refine ih ((take_effect hlegal a).legal hlegal) hnext ?_
      rintro before b after rfl
      exact h (a :: before) b after rfl
    · exact absurd hsyncs (h [] a as rfl)

theorem Effect.phase_of_synced (he : c.Effect p c' (.ok (.synced replayed stale))) :
    c'.phase = .synced := by
  cases he
  rfl

/-- No message takes back that a book was restored. -/
theorem restored_of_run (hlegal : c.Legal) (h : c.book.restored = true) :
    (c.run as).book.restored = true := by
  refine run_invariant (P := fun _ c' => c'.book.restored = true) h ?_ as
  intro as a ih
  rw [take_restored (run_legal hlegal as), ih]
  rfl

/-- **A book that was given up** can be read again once a message brings it in step, and not
before. -/
theorem waits_of_awaiting (hlegal : c.Legal) (hphase : c.phase = .awaiting)
    (hrestored : c.book.restored = true) (hreason : c.book.invalidation = some reason) :
    c.Waits reason where
  unloaded later h := by
    obtain ⟨hbook, -⟩ := run_of_unloaded hlegal hphase h
    rw [view_eq_error_iff, hbook]
    exact Book.readable_eq_invalidated_iff.mpr ⟨hrestored, hreason⟩
  unsynced later h := by
    have hlater := run_of_unsynced hlegal hphase h
    obtain ⟨-, reason', hreason'⟩ := (run_legal hlegal later).awaiting hlater
    refine ⟨reason', ?_⟩
    rw [view_eq_error_iff, ← (run_kin hlegal later).key]
    exact Book.readable_eq_invalidated_iff.mpr ⟨restored_of_run hlegal hrestored, hreason'⟩
  synced before a h := by
    obtain ⟨replayed, stale, houtcome⟩ := h
    have heffect := take_effect (run_legal hlegal before) a
    rw [houtcome] at heffect
    obtain ⟨-, hmarks⟩ :=
      (heffect.legal (run_legal hlegal before)).synced heffect.phase_of_synced
    rw [run_concat]
    exact ⟨_, view_eq_ok_iff.mpr ⟨Book.readable_eq_ok_iff.mpr hmarks, rfl⟩⟩

/-! ### Live changes with a checksum -/

/-- **Verification**, in every channel whose book is verified and in step, of changes that
carry a checksum, follow the last ones, are valid and amend no number that does not rest.
All of them get into the book, and both sides of it are in order then, so the order has no
say.  The answer is that they were applied if the checksum is that of the text of the best
levels.  If it is another, the answer gives both checksums, and the book is given up until a
snapshot brings it in step again. -/
theorem verification_of_run (key : Key) (options : Options) (limit : Nat) (as : List Arrival)
    (d : Delta) (expected : UInt32) (pool : Pool) (clock : Nat → Instant) :
    let c := (empty key options limit).run as
    let r := c.book.apply d.id d.changes pool (clock 0)
    let computed := Crc32.ofBytes ((Checksum.payload r.book.bids.levels r.book.asks.levels
      options.checksumDepth).flatMap String.utf8EncodeChar)
    let mismatch := Desync.checksumMismatch expected computed
    let step := c.take ⟨.delta d, pool, clock⟩
    options.verify = true → c.phase = .synced → d.checksum = some expected →
      c.book.checkNumber d.id = .ok () → checkChanges d.changes = .ok () →
      (options.addressing = .id → ∀ before x rest i, d.changes = before ++ x :: rest →
        ¬(c.book.apply d.id before pool (clock 0)).book.Lacks x i) →
      (r.error = none ∧ r.book.bids.isOrdered ∧ r.book.asks.isOrdered) ∧
      step.outcome = .ok (if expected = computed then .applied else .desynced mismatch) ∧
      step.channel.book =
        (if expected = computed then r.book else r.book.invalidate mismatch.message) ∧
      (expected ≠ computed → step.channel.Waits mismatch.message) := by
  intro c r computed mismatch step hverify hsynced hchecksum hnumber hchanges hrest
  have hlegal : c.Legal := run_legal (legal_empty key options limit) as
  have hsound : c.book.EachSide Book.SoundOn := sound_of_run key options limit as
  have hoptions : c.book.options = options := (run_empty_kin key options limit as).options
  have hrestored : c.book.restored = true := (hlegal.synced hsynced).2.1
  have hframe : Book.Frame c.book r.book := c.book.apply_frame d.id d.changes
  have hadmits : c.book.Admits d.id d.changes := by
    rw [← Book.checkMessage_eq_ok_iff, Book.checkMessage, if_pos hrestored, hnumber]
    exact hchanges
  have herror : r.error = none := by
    refine Book.apply_error_eq_none_iff.mpr ⟨hadmits, ?_⟩
    rw [hoptions]
    exact hrest
  have hafter : r.book.EachSide Book.SoundOn :=
    c.book.perform_sound ⟨.apply d.id d.changes, pool, clock 0⟩ hsound
  have hcomputed : r.book.checksum = computed := by
    rw [Book.checksum, Checksum.ofLevels_eq, hframe.options, hoptions]
  have hdelta : c.book.applyDelta d pool (clock 0) =
      if expected = computed then r
      else { r with error := some (.integrity expected computed) } := by
    rw [← hcomputed]
    exact Book.applyDelta_of_verified rfl (by rw [hoptions, hverify]) hsound herror hchecksum
  have hstep : step = c.applyLive d pool (clock 0) := by
    show c.receiveDelta d pool clock = _
    rw [receiveDelta, hsynced]
  refine ⟨⟨herror, (hafter .bid).2.isOrdered, (hafter .ask).2.isOrdered⟩, ?_⟩
  by_cases hsame : expected = computed
  · rw [if_pos hsame] at hdelta
    have happlied : step = ⟨{ c with book := r.book }.countApplied, r.pool, .ok .applied⟩ := by
      simp only [hstep, applyLive, hdelta, herror]
    rw [happlied, if_pos hsame, if_pos hsame]
    exact ⟨rfl, rfl, fun h => absurd hsame h⟩
  · rw [if_neg hsame] at hdelta
    have hdesynced : step = ⟨{ c with book := r.book }.desync mismatch, r.pool,
        .ok (.desynced mismatch)⟩ := by
      simp only [hstep, applyLive, hdelta]
      rfl
    rw [hdesynced, if_neg hsame, if_neg hsame]
    refine ⟨rfl, rfl, fun _ => ?_⟩
    exact waits_of_awaiting (.desync _ _) rfl (hframe.restored.trans hrestored) rfl

/-! A verified book with a bid and an ask, and changes that set a second bid. -/

def verifiedRun : List Arrival := [.alone (.snapshot (exampleSnapshot none))]

def summedDelta (checksum : UInt32) : Delta :=
  { bidDelta 11 99 5 with checksum := some checksum }

theorem verification_of_summedDelta :
    let c := (empty exampleKey { verify := true } 3).run verifiedRun
    let step := fun checksum => c.take (.alone (.delta (summedDelta checksum)))
    c.phase = .synced ∧ c.book.checkNumber 11 = .ok () ∧
      (step 922840444).outcome = .ok .applied ∧
      (step 7).outcome = .ok (.desynced (.checksumMismatch 7 922840444)) ∧
      (step 7).channel.Waits "checksum mismatch: venue 7, local 922840444" := by
  intro c step
  have hsynced : c.phase = .synced := by decide +kernel
  have hnumber : c.book.checkNumber 11 = .ok () := by decide +kernel
  let r := c.book.apply 11 (bidDelta 11 99 5).changes (.empty 0) 0
  let text := Checksum.payload r.book.bids.levels r.book.asks.levels 25
  have hcomputed : Crc32.ofBytes (text.flatMap String.utf8EncodeChar) = 922840444 := by
    decide +kernel
  have hverified : ∀ sum checksum,
      Crc32.ofBytes (text.flatMap String.utf8EncodeChar) = sum →
      (step checksum).outcome =
          .ok (if checksum = sum then .applied else .desynced (.checksumMismatch checksum sum)) ∧
        (checksum ≠ sum →
          (step checksum).channel.Waits (Desync.checksumMismatch checksum sum).message) := by
    rintro _ checksum rfl
    obtain ⟨-, houtcome, -, hwaits⟩ := verification_of_run exampleKey { verify := true } 3
      verifiedRun (summedDelta checksum) checksum (.empty 0) (fun _ => 0) rfl hsynced rfl hnumber
      (show checkChanges (bidDelta 11 99 5).changes = .ok () by decide) nofun
    exact ⟨houtcome, hwaits⟩
  obtain ⟨houtcome, hwaits⟩ := hverified 922840444 7 hcomputed
  exact ⟨hsynced, hnumber, (hverified 922840444 922840444 hcomputed).1, houtcome,
    hwaits (by decide)⟩

end Channel

end MarketDepth
