/-
MarketDepth/Proofs/Channel/Follow.lean

A book that follows a list of messages.

`b.Follows ds b' phase` says what becomes of a book in step when the messages
`ds` reach it one after the other: it takes each of them whole, and if it fails
on one, it is invalidated and the rest is dropped.  Two parts of a channel do
this, the drain of what was held for a snapshot and the channel as messages come
in live.  That both do the same is shown here once for each of them
(`Channel.reload_follows` and `Channel.run_of_follows`), so that they can be
compared without looking at either again.
-/
import MarketDepth.Proofs.Channel.Phase

namespace MarketDepth

/-! ### Following -/

namespace Book

/-- What becomes of a book in step as messages reach it: `b'` is the book after
them, and the phase says whether it is still in step. -/
inductive Follows : Book → List Delta → Book → Phase → Prop
  | nil (b : Book) : Follows b [] b .synced
  | takes {b b₁ b' : Book} {d : Delta} {ds : List Delta} {phase : Phase} :
      b.Takes d b₁ → Follows b₁ ds b' phase → Follows b (d :: ds) b' phase
  | fails {b b' : Book} {d : Delta} {ds : List Delta} {reason : Desync} :
      b.FailsOn d b' reason → Follows b (d :: ds) (b'.invalidate reason.message) .awaiting

variable {b b₁ b' : Book} {ds es : List Delta} {d : Delta} {phase : Phase} {reason : Desync}

theorem TakesAll.follows (h : b.TakesAll ds b') : b.Follows ds b' .synced := by
  induction h with
  | nil b => exact .nil b
  | cons hd _ ih => exact .takes hd ih

theorem TakesAll.follows_append (h : b.TakesAll ds b₁) (h' : b₁.Follows es b' phase) :
    b.Follows (ds ++ es) b' phase := by
  induction h with
  | nil b => exact h'
  | cons hd _ ih => exact .takes hd (ih h')

/-- A restored book follows all valid messages, one way or another. -/
theorem exists_follows (hb : b.restored = true)
    (hv : ∀ d ∈ ds, checkChanges d.changes = .ok ()) : ∃ b' phase, b.Follows ds b' phase := by
  obtain ⟨b', h⟩ | ⟨taken, d, rest, b₁, b', reason, rfl, htaken, hfail⟩ := takesAll_or_stops hb hv
  · exact ⟨b', _, h.follows⟩
  · exact ⟨_, _, htaken.follows_append (.fails hfail)⟩

namespace Follows

theorem of_nil (h : b.Follows [] b' phase) : b' = b ∧ phase = .synced := by
  cases h
  exact ⟨rfl, rfl⟩

theorem restored (h : b.Follows ds b' phase) : b'.restored = b.restored := by
  induction h with
  | nil b => rfl
  | takes hd _ ih => exact ih.trans hd.frame.restored
  | fails hd => exact hd.frame.restored

theorem phase_eq (h : b.Follows ds b' phase) : phase = .synced ∨ phase = .awaiting := by
  induction h with
  | nil b => exact .inl rfl
  | takes _ _ ih => exact ih
  | fails _ => exact .inr rfl

/-- A book in step goes on with the next messages. -/
theorem append (h : b.Follows ds b₁ .synced) (h' : b₁.Follows es b' phase) :
    b.Follows (ds ++ es) b' phase := by
  generalize hsynced : Phase.synced = p at h
  induction h with
  | nil b => exact h'
  | takes hd _ ih => exact .takes hd (ih h' hsynced)
  | fails _ => cases hsynced

/-- A book that was given up takes no more messages. -/
theorem append_of_awaiting (h : b.Follows ds b' .awaiting) (es : List Delta) :
    b.Follows (ds ++ es) b' .awaiting := by
  generalize hawaiting : Phase.awaiting = p at h
  induction h with
  | nil b => cases hawaiting
  | takes hd _ ih => exact .takes hd (ih hawaiting)
  | fails hd => exact .fails hd

end Follows

end Book

namespace Channel

variable {c c' : Channel} {b b' : Book} {d : Delta} {ds : List Delta} {s : Snapshot}
variable {phase : Phase} {reason : Desync} {o : Except BookError Outcome} {as : List Arrival}

/-! ### Draining -/

/-- A snapshot with the right checksum leaves the book that follows what was held
and is not covered. -/
theorem reload_follows (hload : c.book.load s = .ok b) (hsum : b.Matches s.checksum)
    (he : c.Effect (.snapshot s) c' o) : b.Follows (c.freshHeld s.id) c'.book c'.phase := by
  cases he with
  | refused load =>
    rw [hload] at load
    cases load
  | mismatched load carried wrong =>
    obtain rfl := Except.ok.inj (hload.symm.trans load)
    have := hsum _ carried
    rw [wrong] at this
    cases this
  | drained load _ takes =>
    obtain rfl := Except.ok.inj (hload.symm.trans load)
    exact takes.follows
  | stopped load _ fresh takes fails =>
    obtain rfl := Except.ok.inj (hload.symm.trans load)
    rw [fresh]
    exact takes.follows_append (.fails fails)

/-- Nothing is drained if nothing was held. -/
theorem freshHeld_eq_nil (h : c.held = []) (id : Int) : c.freshHeld id = [] := by
  rw [List.eq_nil_iff_forall_not_mem]
  intro d hd
  have hmem := (mem_freshHeld.mp hd).1
  rw [h] at hmem
  cases hmem

/-- A snapshot that nothing was held for leaves the book that it made. -/
theorem reload_of_held_nil (hheld : c.held = []) (hload : c.book.load s = .ok b)
    (hsum : b.Matches s.checksum) (he : c.Effect (.snapshot s) c' o) :
    c'.book = b ∧ c'.phase = .synced := by
  have h := reload_follows hload hsum he
  rw [freshHeld_eq_nil hheld] at h
  exact h.of_nil

/-- A snapshot with a wrong checksum leaves the book that it made, given up. -/
theorem reload_mismatched {expected : UInt32} (hload : c.book.load s = .ok b)
    (hcarried : s.checksum = some expected)
    (hwrong : b.compareChecksum expected = .error (.integrity expected b.checksum))
    (he : c.Effect (.snapshot s) c' o) :
    c'.book = b.invalidate (Desync.checksumMismatch expected b.checksum).message ∧
      c'.phase = .awaiting := by
  have hnot : ¬b.Matches s.checksum := by
    intro hsum
    have := hsum expected hcarried
    rw [hwrong] at this
    cases this
  cases he with
  | refused load =>
    rw [hload] at load
    cases load
  | mismatched load carried _ =>
    obtain rfl := Except.ok.inj (hload.symm.trans load)
    obtain rfl := Option.some.inj (hcarried.symm.trans carried)
    exact ⟨rfl, rfl⟩
  | drained load checked _ =>
    obtain rfl := Except.ok.inj (hload.symm.trans load)
    exact absurd checked hnot
  | stopped load checked _ _ _ =>
    obtain rfl := Except.ok.inj (hload.symm.trans load)
    exact absurd checked hnot

/-! ### Live messages -/

theorem take_of_takes {pool : Pool} {clock : Nat → Instant} (hphase : c.phase = .synced)
    (h : c.book.Takes d b') :
    (c.take ⟨.delta d, pool, clock⟩).channel = { c with book := b' }.countApplied := by
  show (c.receiveDelta d pool clock).channel = _
  unfold receiveDelta applyLive
  simp only [hphase, h.error, h.book]

theorem take_of_failsOn {pool : Pool} {clock : Nat → Instant} (hphase : c.phase = .synced)
    (h : c.book.FailsOn d b' reason) :
    (c.take ⟨.delta d, pool, clock⟩).channel = { c with book := b' }.desync reason := by
  obtain ⟨e, herror, hheal⟩ := h.error pool (clock 0)
  show (c.receiveDelta d pool clock).channel = _
  unfold receiveDelta applyLive
  simp only [hphase, herror, h.book, answerError, hheal]

/-- Changes do nothing to a book that waits for a snapshot. -/
theorem run_of_awaiting (hphase : c.phase = .awaiting)
    (has : as.map (·.payload) = ds.map .delta) :
    (c.run as).book = c.book ∧ (c.run as).phase = .awaiting := by
  induction as generalizing c ds with
  | nil => exact ⟨rfl, hphase⟩
  | cons a as ih =>
    obtain ⟨d, ds, rfl, ha, hrest⟩ := List.map_eq_cons_iff.mp has.symm
    obtain ⟨p, pool, clock⟩ := a
    obtain rfl : Payload.delta d = p := ha
    have hstep : (c.take ⟨.delta d, pool, clock⟩).channel = c.countDiscarded 1 := by
      show (c.receiveDelta d pool clock).channel = _
      unfold receiveDelta
      simp only [hphase]
    rw [run, hstep]
    exact ih (c := c.countDiscarded 1) hphase hrest.symm

/-- Changes that come in live are followed by the book. -/
theorem run_of_follows (hphase : c.phase = .synced) (h : c.book.Follows ds b' phase)
    (has : as.map (·.payload) = ds.map .delta) :
    (c.run as).book = b' ∧ (c.run as).phase = phase := by
  generalize hbook : c.book = b at h
  induction h generalizing c as with
  | nil b =>
    obtain rfl := List.map_eq_nil_iff.mp has
    exact ⟨hbook, hphase⟩
  | @takes b b₁ b' d ds phase hd _ ih =>
    subst hbook
    obtain ⟨⟨_, pool, clock⟩, as, rfl, rfl, hrest⟩ := List.map_eq_cons_iff.mp has
    rw [run, take_of_takes hphase hd]
    exact ih (c := { c with book := b₁ }.countApplied) hphase hrest rfl
  | @fails b b' d ds reason hd =>
    subst hbook
    obtain ⟨⟨_, pool, clock⟩, as, rfl, rfl, hrest⟩ := List.map_eq_cons_iff.mp has
    rw [run, take_of_failsOn hphase hd]
    exact run_of_awaiting (c := { c with book := b' }.desync reason) rfl hrest

end Channel

end MarketDepth
