/-
MarketDepth/Proofs/Channel/Phase.lean

What the phase of a channel says about the rest of it.

The phase, the held messages, and the two marks on the book (restored, and
invalidated) are written in different places.  `Channel.Legal` lists which
combinations go together; every message keeps them (`Channel.Effect.legal`), so
they hold after every run (`Channel.run_legal`).

Main result: `Channel.phase_of_run`, which adds what a reader of the book gets to
see in each phase, and that the book was restored exactly if the run loaded a
snapshot.
-/
import MarketDepth.Proofs.Channel.Run

namespace MarketDepth

namespace Book

variable {b : Book}

theorem kin_empty_iff {key : Key} {options : Options} :
    Kin (.empty key options) b ↔
      b.key = key ∧ b.options = options ∧ b.bids.side = .bid ∧ b.asks.side = .ask :=
  ⟨fun h => ⟨h.key, h.options, h.bidSide, h.askSide⟩,
    fun ⟨hk, ho, hb, ha⟩ => ⟨hk, ho, hb, ha⟩⟩

theorem readable_eq_ok_iff :
    b.readable = .ok () ↔ b.restored = true ∧ b.invalidation = none := by
  unfold readable
  cases b.restored <;> cases b.invalidation <;> simp

theorem readable_eq_notFound_iff :
    b.readable = .error (.notFound b.key) ↔ b.restored = false := by
  unfold readable
  cases b.restored <;> cases b.invalidation <;> simp

theorem readable_eq_invalidated_iff {reason : String} :
    b.readable = .error (.invalidated b.key reason) ↔
      b.restored = true ∧ b.invalidation = some reason := by
  unfold readable
  cases b.restored <;> cases b.invalidation <;> simp

end Book

namespace Channel

variable {c c' : Channel} {p : Payload} {o : Except BookError Outcome}

/-! ### The combinations that go together -/

/-- The combinations of phase, held messages and marks on the book that occur. -/
structure Legal (c : Channel) : Prop where
  unsynced : c.phase = .unsynced →
    c.held = [] ∧ c.book = .empty c.book.key c.book.options
  holding : c.phase = .holding →
    1 ≤ c.held.length ∧ c.held.length ≤ c.holdLimit ∧
      (∀ d ∈ c.held, checkChanges d.changes = .ok ()) ∧
      c.book = .empty c.book.key c.book.options
  synced : c.phase = .synced →
    c.held = [] ∧ c.book.restored = true ∧ c.book.invalidation = none
  awaiting : c.phase = .awaiting →
    c.held = [] ∧ ∃ reason, c.book.invalidation = some reason

theorem legal_empty (key : Key) (options : Options) (limit : Nat) :
    (empty key options limit).Legal where
  unsynced _ := ⟨rfl, rfl⟩
  holding h := by cases h
  synced h := by cases h
  awaiting h := by cases h

namespace Legal

/-- What is held is empty once a snapshot has come. -/
theorem held_eq_nil (h : c.Legal) (hphase : c.phase ≠ .holding) : c.held = [] := by
  cases hp : c.phase with
  | unsynced => exact (h.unsynced hp).1
  | holding => exact absurd hp hphase
  | synced => exact (h.synced hp).1
  | awaiting => exact (h.awaiting hp).1

/-- Before a snapshot the book is that of a new channel. -/
theorem book_of_early (h : c.Legal) (early : c.phase = .unsynced ∨ c.phase = .holding) :
    c.book = .empty c.book.key c.book.options := by
  rcases early with hp | hp
  · exact (h.unsynced hp).2
  · exact (h.holding hp).2.2.2

theorem ready (h : c.Legal) : c.Ready where
  restored hp := (h.synced hp).2.1
  valid d hd := by
    by_cases hp : c.phase = .holding
    · exact (h.holding hp).2.2.1 d hd
    · rw [h.held_eq_nil hp] at hd
      cases hd

/-- A channel that was given up is in a legal state, whatever came before. -/
theorem desync (c : Channel) (reason : Desync) : (c.desync reason).Legal where
  unsynced h := by cases h
  holding h := by cases h
  synced h := by cases h
  awaiting _ := ⟨rfl, _, rfl⟩

end Legal

/-- Every message keeps the combinations. -/
theorem Effect.legal (h : c.Legal) (he : c.Effect p c' o) : c'.Legal := by
  cases he with
  | refused | invalid => exact h
  -- the checksum and the drain come after the snapshot has cleared the marks
  | mismatched | stopped | overflows | failed => exact .desync _ _
  | @drained s b b' load _ takes =>
    obtain ⟨-, hrestored, hvalid, -⟩ := Book.load_ok load
    refine ⟨?_, ?_, ?_, ?_⟩ <;> intro hp
    · cases hp
    · cases hp
    · exact ⟨rfl, takes.frame.restored.trans hrestored, takes.frame.invalidation.trans hvalid⟩
    · cases hp
  | @waits d early check room =>
    refine ⟨?_, ?_, ?_, ?_⟩ <;> intro hp
    · cases hp
    · have hlen : (c.held ++ [d]).length = c.held.length + 1 := by simp
      refine ⟨?_, ?_, ?_, h.book_of_early early⟩
      · show 1 ≤ (c.held ++ [d]).length
        omega
      · show (c.held ++ [d]).length ≤ c.holdLimit
        omega
      intro e he
      rcases List.mem_append.mp he with he | he
      · exact h.ready.valid e he
      · rw [List.mem_singleton.mp he]
        exact check
    · cases hp
    · cases hp
  | @applied d b' synced takes =>
    -- taking changes leaves both marks alone
    obtain ⟨hheld, hrestored, hvalid⟩ := h.synced synced
    have hphase : ∀ {q}, c.phase = q → q = .synced := fun hq => hq.symm.trans synced
    refine ⟨?_, ?_, ?_, ?_⟩ <;> intro hp
    · cases hphase hp
    · cases hphase hp
    · exact ⟨hheld, takes.frame.restored.trans hrestored, takes.frame.invalidation.trans hvalid⟩
    · cases hphase hp
  | dropped => exact ⟨h.unsynced, h.holding, h.synced, h.awaiting⟩

/-! ### Runs -/

theorem take_effect (h : c.Legal) (a : Arrival) :
    c.Effect a.payload (c.take a).channel (c.take a).outcome :=
  receive_effect h.ready a.payload a.pool a.clock

theorem run_legal (h : c.Legal) (as : List Arrival) : (c.run as).Legal :=
  run_invariant (P := fun _ c => c.Legal) h (fun _ a hc => (take_effect hc a).legal hc) as

theorem run_kin (h : c.Legal) (as : List Arrival) : c.book.Kin (c.run as).book :=
  run_invariant (P := fun _ c' => c.book.Kin c'.book) (.refl _)
    (fun as a hkin => hkin.trans (take_effect (run_legal h as) a).kin) as

theorem run_empty_kin (key : Key) (options : Options) (limit : Nat) (as : List Arrival) :
    (Book.empty key options).Kin ((empty key options limit).run as).book :=
  run_kin (legal_empty key options limit) as

theorem run_holdLimit (h : c.Legal) (as : List Arrival) : (c.run as).holdLimit = c.holdLimit :=
  run_invariant (P := fun _ c' => c'.holdLimit = c.holdLimit) rfl
    (fun as a hlim => (take_effect (run_legal h as) a).holdLimit.trans hlim) as

/-- A message restores the book if it loads a snapshot; no message takes that back. -/
theorem take_restored (h : c.Legal) (a : Arrival) :
    (c.take a).channel.book.restored = (c.book.restored || (c.loads? a).isSome) := by
  obtain ⟨p, pool, clock⟩ := a
  have heffect := take_effect h ⟨p, pool, clock⟩
  generalize (c.take ⟨p, pool, clock⟩).channel = c', (c.take ⟨p, pool, clock⟩).outcome = o
    at heffect
  cases heffect with
  | refused load => simp [loads?_of_load_error load]
  | mismatched load =>
    have hrestored := (Book.load_ok load).2.1
    simp [loads?_of_load_ok load, desync, reload, Book.invalidate, hrestored]
  | drained load _ takes =>
    have hrestored := takes.frame.restored.trans (Book.load_ok load).2.1
    simp [loads?_of_load_ok load, countDiscarded, reload, hrestored]
  | stopped load _ _ takes fails =>
    have hrestored := (fails.frame.restored.trans takes.frame.restored).trans
      (Book.load_ok load).2.1
    simp [loads?_of_load_ok load, desync, countDiscarded, reload, Book.invalidate, hrestored]
  | invalid | waits => simp [loads?_delta]
  | overflows | dropped => simp [loads?_delta, desync, countDiscarded, Book.invalidate]
  | applied _ takes => simp [loads?_delta, countApplied, takes.frame.restored]
  | failed _ fails => simp [loads?_delta, desync, Book.invalidate, fails.frame.restored]

/-- After a run the book is restored exactly if the run loaded a snapshot. -/
theorem run_restored (key : Key) (options : Options) (limit : Nat) (as : List Arrival) :
    ((empty key options limit).run as).book.restored = true ↔
      (empty key options limit).loaded as ≠ [] := by
  refine run_invariant
    (P := fun as c => c.book.restored = true ↔ (empty key options limit).loaded as ≠ [])
    ?_ ?_ as
  · simp [empty, Book.empty, loaded]
  · intro as a ih
    rw [take_restored (run_legal (legal_empty key options limit) as) a, loaded_concat,
      Bool.or_eq_true, ih]
    cases (Channel.run _ as).loads? a <;> simp

/-! ### Phases and readers -/

theorem view_eq_ok_iff {v : View} :
    c.view = .ok v ↔ c.book.readable = .ok () ∧ v = c.book.view := by
  unfold view
  cases c.book.readable with
  | error e => simp [Except.map]
  | ok u => simp [Except.map, eq_comm]

theorem view_eq_error_iff {e : BookError} :
    c.view = .error e ↔ c.book.readable = .error e := by
  unfold view
  cases c.book.readable <;> simp [Except.map]

/-- The book can be read in one phase only. -/
theorem Legal.synced_iff (h : c.Legal) :
    c.phase = .synced ↔ c.book.restored = true ∧ c.book.invalidation = none := by
  constructor
  · intro hp
    exact (h.synced hp).2
  · rintro ⟨hrestored, hvalid⟩
    cases hp : c.phase with
    | unsynced =>
      rw [h.book_of_early (.inl hp)] at hrestored
      cases hrestored
    | holding =>
      rw [h.book_of_early (.inr hp)] at hrestored
      cases hrestored
    | synced => rfl
    | awaiting =>
      obtain ⟨-, reason, hreason⟩ := h.awaiting hp
      rw [hreason] at hvalid
      cases hvalid

/-- **What the phase says**, after every run of a new channel.  Before anything
came, nothing is held and the book is new.  While changes are held, there are
some but no more than the limit, all of them valid, and the book is new.  While
the book is in step, nothing is held and the book is restored and not
invalidated.  While it waits, nothing is held and the book is invalidated.  A
reader is served in the third of these phases only; it is told that there is no
book exactly if the run never loaded a snapshot, and that the book is invalidated
in all other cases. -/
theorem phase_of_run (key : Key) (options : Options) (limit : Nat) (as : List Arrival) :
    let c := (empty key options limit).run as
    let snapshots := (empty key options limit).loaded as
    (c.phase = .unsynced → c.held = [] ∧ c.book = .empty key options) ∧
    (c.phase = .holding →
      1 ≤ c.held.length ∧ c.held.length ≤ limit ∧
        (∀ d ∈ c.held, checkChanges d.changes = .ok ()) ∧ c.book = .empty key options) ∧
    (c.phase = .synced →
      c.held = [] ∧ c.book.restored = true ∧ c.book.invalidation = none) ∧
    (c.phase = .awaiting → c.held = [] ∧ ∃ reason, c.book.invalidation = some reason) ∧
    ((∃ v, c.view = .ok v) ↔ c.phase = .synced) ∧
    (c.view = .error (.notFound key) ↔ snapshots = []) ∧
    ((∃ reason, c.view = .error (.invalidated key reason)) ↔
      c.phase ≠ .synced ∧ snapshots ≠ []) := by
  intro c snapshots
  have hlegal : c.Legal := run_legal (legal_empty key options limit) as
  have hlimit : c.holdLimit = limit := run_holdLimit (legal_empty key options limit) as
  obtain ⟨hkey, hoptions, -, -⟩ := Book.kin_empty_iff.mp (run_empty_kin key options limit as)
  have hrestored : c.book.restored = true ↔ snapshots ≠ [] := run_restored key options limit as
  have hunsynced := hlegal.unsynced
  have hholding := hlegal.holding
  rw [hkey, hoptions] at hunsynced hholding
  rw [hlimit] at hholding
  refine ⟨hunsynced, hholding, hlegal.synced, hlegal.awaiting, ?_, ?_, ?_⟩
  · simp only [view_eq_ok_iff, exists_and_left, exists_eq, and_true,
      Book.readable_eq_ok_iff, hlegal.synced_iff]
  · have hbook := c.book.readable_eq_notFound_iff
    rw [hkey] at hbook
    rw [view_eq_error_iff, hbook, ← Bool.not_eq_true, hrestored, Decidable.not_not]
  · have hbook : ∀ reason, c.book.readable = .error (.invalidated key reason) ↔
        c.book.restored = true ∧ c.book.invalidation = some reason := by
      intro reason
      rw [← hkey]
      exact Book.readable_eq_invalidated_iff
    rw [← hrestored, ne_eq, hlegal.synced_iff]
    simp only [view_eq_error_iff, hbook]
    cases c.book.restored <;> cases c.book.invalidation <;> simp

end Channel

end MarketDepth
