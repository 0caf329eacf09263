/-
MarketDepth/Proofs/Channel/Race.lean

The race between a snapshot and the changes that build on it.

A venue sends changes while the snapshot is still under way, so some of them are
held and drained when it comes.  Had the snapshot been first, the same changes
would have come in live.  In both cases what happens to the book is
`Book.Settles`: it is loaded, its checksum is compared, and it follows the
changes that the snapshot does not cover.  The two cases differ only in the order
of the changes, and as their numbers differ there is but one order to drain them
in.

Main result: `Channel.book_eq_of_race`, that the book and the phase are the same whoever
wins.
-/
import MarketDepth.Proofs.Channel.Follow

namespace MarketDepth

/-! ### What becomes of a loaded book -/

namespace Book

variable {b b' b'' : Book} {ds : List Delta} {phase phase' : Phase} {checksum : Option UInt32}

theorem Follows.unique (h : b.Follows ds b' phase) (h' : b.Follows ds b'' phase') :
    b' = b'' ∧ phase = phase' := by
  induction h with
  | nil b =>
    obtain ⟨rfl, rfl⟩ := h'.of_nil
    exact ⟨rfl, rfl⟩
  | takes hd _ ih =>
    cases h' with
    | takes hd' hrest =>
      obtain rfl := hd.unique hd'
      exact ih hrest
    | fails hd' => exact absurd hd' hd.not_failsOn
  | fails hd =>
    cases h' with
    | takes hd' _ => exact absurd hd hd'.not_failsOn
    | fails hd' =>
      obtain ⟨rfl, rfl⟩ := hd.unique hd'
      exact ⟨rfl, rfl⟩

/-- The checksum that a snapshot carries is wrong. -/
theorem wrong_of_not_matches (h : ¬b.Matches checksum) :
    ∃ expected, checksum = some expected ∧
      b.compareChecksum expected = .error (.integrity expected b.checksum) := by
  cases checksum with
  | none => exact absurd (fun _ hmem => by cases hmem) h
  | some expected =>
    refine ⟨expected, rfl, ?_⟩
    cases hc : b.compareChecksum expected with
    | ok u =>
      refine absurd (fun e he => ?_) h
      rw [← Option.some.inj he]
      exact hc
    | error e => rw [compareChecksum_error hc]

/-- What becomes of a book just loaded from a snapshot as messages reach it, the
first of which may have come before the snapshot. -/
inductive Settles (b : Book) (checksum : Option UInt32) (ds : List Delta) : Book → Phase → Prop
  | matched {b' : Book} {phase : Phase} (sum : b.Matches checksum)
      (follows : b.Follows ds b' phase) : Settles b checksum ds b' phase
  | mismatched {expected : UInt32} (carried : checksum = some expected)
      (wrong : b.compareChecksum expected = .error (.integrity expected b.checksum)) :
      Settles b checksum ds (b.invalidate (Desync.checksumMismatch expected b.checksum).message)
        .awaiting

theorem Settles.unique (h : b.Settles checksum ds b' phase)
    (h' : b.Settles checksum ds b'' phase') : b' = b'' ∧ phase = phase' := by
  cases h with
  | matched sum follows =>
    cases h' with
    | matched _ follows' => exact follows.unique follows'
    | mismatched carried wrong =>
      have := wrong.symm.trans (sum _ carried)
      cases this
  | mismatched carried wrong =>
    cases h' with
    | matched sum _ =>
      have := wrong.symm.trans (sum _ carried)
      cases this
    | mismatched carried' _ =>
      obtain rfl := Option.some.inj (carried.symm.trans carried')
      exact ⟨rfl, rfl⟩

end Book

namespace Channel

variable {c : Channel} {key : Key} {options : Options} {limit : Nat} {s : Snapshot} {b : Book}
variable {early late inOrder ds : List Delta} {as bs : List Arrival}

/-! ### Before the snapshot -/

theorem take_of_room {d : Delta} {pool : Pool} {clock : Nat → Instant}
    (hphase : c.phase = .unsynced ∨ c.phase = .holding)
    (hvalid : checkChanges d.changes = .ok ()) (hroom : c.held.length < c.holdLimit) :
    (c.take ⟨.delta d, pool, clock⟩).channel =
      { c with
        held := c.held ++ [d]
        phase := .holding
        stats := { c.stats with held := c.stats.held + 1 } } := by
  show (c.receiveDelta d pool clock).channel = _
  unfold receiveDelta
  rcases hphase with hp | hp <;>
    simp only [hp, hold, hvalid, Nat.not_le_of_lt hroom, if_false]

/-- Valid changes are held as long as there is room for them. -/
theorem run_of_room (hphase : c.phase = .unsynced ∨ c.phase = .holding)
    (hvalid : ∀ d ∈ ds, checkChanges d.changes = .ok ())
    (hroom : c.held.length + ds.length ≤ c.holdLimit)
    (has : as.map (·.payload) = ds.map .delta) :
    ((c.run as).phase = .unsynced ∨ (c.run as).phase = .holding) ∧
      (c.run as).held = c.held ++ ds := by
  induction ds generalizing c as with
  | nil =>
    obtain rfl := List.map_eq_nil_iff.mp has
    exact ⟨hphase, (List.append_nil c.held).symm⟩
  | cons d ds ih =>
    obtain ⟨⟨_, pool, clock⟩, as, rfl, rfl, hrest⟩ := List.map_eq_cons_iff.mp has
    obtain ⟨hd, hds⟩ := List.forall_mem_cons.mp hvalid
    rw [List.length_cons] at hroom
    rw [run, List.append_cons c.held d ds, take_of_room hphase hd (by omega)]
    refine ih ?_ hds ?_ hrest
    · exact .inr rfl
    · show (c.held ++ [d]).length + ds.length ≤ c.holdLimit
      rw [List.length_append, List.length_singleton]
      omega

/-! ### From the snapshot on -/

/-- A run of a snapshot and of valid changes settles the book that the snapshot
makes, whatever was held for it. -/
theorem run_settles (hlegal : c.Legal) (hload : c.book.load s = .ok b)
    (hvalid : ∀ d ∈ ds, checkChanges d.changes = .ok ())
    (has : as.map (·.payload) = .snapshot s :: ds.map .delta) :
    b.Settles s.checksum (c.freshHeld s.id ++ ds) (c.run as).book (c.run as).phase := by
  obtain ⟨⟨_, pool, clock⟩, as, rfl, rfl, hrest⟩ := List.map_eq_cons_iff.mp has
  have heffect := take_effect hlegal ⟨.snapshot s, pool, clock⟩
  rw [run]
  generalize (c.take ⟨.snapshot s, pool, clock⟩).channel = c' at heffect ⊢
  by_cases hsum : b.Matches s.checksum
  · -- the drain may already leave the book out of step, and then the rest is dropped
    refine .matched hsum ?_
    have hdrain := reload_follows hload hsum heffect
    rcases hdrain.phase_eq with hp | hp
    · have hrestored : c'.book.restored = true := by
        rw [hdrain.restored]
        exact (Book.load_ok hload).2.1
      obtain ⟨b', phase, hlive⟩ := Book.exists_follows hrestored hvalid
      obtain ⟨hbook, hphase⟩ := run_of_follows hp hlive hrest
      rw [hbook, hphase]
      rw [hp] at hdrain
      exact hdrain.append hlive
    · obtain ⟨hbook, hphase⟩ := run_of_awaiting hp hrest
      rw [hbook, hphase]
      rw [hp] at hdrain
      exact hdrain.append_of_awaiting ds
  · obtain ⟨expected, hcarried, hwrong⟩ := Book.wrong_of_not_matches hsum
    obtain ⟨hbook, hphase⟩ := reload_mismatched hload hcarried hwrong heffect
    obtain ⟨hbook', hphase'⟩ := run_of_awaiting hphase hrest
    rw [hbook', hphase', hbook]
    exact .mismatched hcarried hwrong

/-! ### The race -/

/-- Changes that race the snapshot `s`: those in `early` come before it, in any
order, and those in `late` after it; `inOrder` lists those of them that it does
not cover by their numbers. -/
structure Race (limit : Nat) (s : Snapshot) (early late inOrder : List Delta) : Prop where
  valid : ∀ d ∈ early ++ late, checkChanges d.changes = .ok ()
  distinct : ((early ++ late).map (·.id)).Nodup
  room : early.length ≤ limit
  after : ∀ d ∈ late, s.id < d.id ∧ ∀ e ∈ early, e.id < d.id
  ascending : late.Pairwise (·.id < ·.id)
  uncovered : inOrder.Perm ((early ++ late).filter (s.id < ·.id))
  ordered : inOrder.Pairwise (·.id < ·.id)

/-- What is drained and what then comes in live is in the order of the numbers. -/
theorem Race.freshHeld_append (h : Race limit s early late inOrder) (hheld : c.held = early) :
    c.freshHeld s.id ++ late = inOrder := by
  have hperm : (c.freshHeld s.id).Perm (early.filter (s.id < ·.id)) := by
    rw [← hheld]
    exact c.heldInOrder_perm.filter _
  have hlate : late.filter (s.id < ·.id) = late := by
    rw [List.filter_eq_self]
    intro d hd
    exact decide_eq_true (h.after d hd).1
  apply eq_of_perm_of_sorted
  · refine .trans ?_ h.uncovered.symm
    rw [List.filter_append, hlate]
    exact hperm.append_right late
  · rw [List.pairwise_append]
    refine ⟨c.heldInOrder_sorted.filter _, h.ascending.imp Int.le_of_lt, ?_⟩
    intro e he d hd
    have hmem : e ∈ early := (List.mem_filter.mp (hperm.mem_iff.mp he)).1
    exact Int.le_of_lt ((h.after d hd).2 e hmem)
  · exact h.ordered

/-- **Whoever wins the race**, the book and the phase are the same in the end: it
does not matter whether some of the changes come before the snapshot, in whatever
order, or all of them after it.  This includes runs that end out of step, for a
gap in the numbers, an unknown level or a wrong checksum, whether of the snapshot
or of changes. -/
theorem book_eq_of_race (pool : Pool) (now : Instant) (h : Race limit s early late inOrder)
    (haccepted : ((Book.empty key options).restore s.bids s.asks s.id pool now).isOk)
    (has : as.map (·.payload) = early.map .delta ++ .snapshot s :: late.map .delta)
    (hbs : bs.map (·.payload) = .snapshot s :: inOrder.map .delta) :
    ((empty key options limit).run as).book = ((empty key options limit).run bs).book ∧
      ((empty key options limit).run as).phase = ((empty key options limit).run bs).phase := by
  obtain ⟨b, hload⟩ : ∃ b, (Book.empty key options).load s = .ok b := by
    rw [← Book.restore_map_fst _ pool now]
    cases hr : (Book.empty key options).restore s.bids s.asks s.id pool now with
    | error e =>
      rw [hr] at haccepted
      cases haccepted
    | ok r => exact ⟨r.1, rfl⟩
  have hvalid : ∀ d ∈ inOrder, checkChanges d.changes = .ok () := by
    intro d hd
    exact h.valid d (List.mem_filter.mp (h.uncovered.mem_iff.mp hd)).1
  obtain ⟨before, after, rfl, hbefore, hafter⟩ := List.map_eq_append_iff.mp has
  have hempty := legal_empty key options limit
  -- with the changes first: what is held when the snapshot comes is `early`
  obtain ⟨-, hheld⟩ := run_of_room (c := empty key options limit) (.inl rfl)
    (fun d hd => h.valid d (List.mem_append_left late hd)) (by simpa [empty] using h.room) hbefore
  have hkin := run_empty_kin key options limit before
  have hfirst := run_settles (run_legal hempty before)
    ((Book.load_eq_of_kin hkin).trans hload)
    (fun d hd => h.valid d (List.mem_append_right early hd)) hafter
  rw [h.freshHeld_append hheld, ← run_append] at hfirst
  -- with the snapshot first: nothing is held
  have hsecond := run_settles hempty hload hvalid hbs
  rw [freshHeld_eq_nil rfl, List.nil_append] at hsecond
  exact hfirst.unique hsecond

/-! Five changes race a snapshot: one of them it covers, and there is a gap after
two others, so that the run ends out of step whoever wins. -/

def gappedEarly : List Delta :=
  [bidDelta 12 99 5, bidDelta 9 97 1, bidDelta 14 97 3, bidDelta 11 98 4]

def gappedLate : List Delta := [bidDelta 15 96 8]

def gappedInOrder : List Delta :=
  [bidDelta 11 98 4, bidDelta 12 99 5, bidDelta 14 97 3, bidDelta 15 96 8]

theorem gapped_race : Race 4 (exampleSnapshot none) gappedEarly gappedLate gappedInOrder where
  valid := by
    intro d hd
    simp only [gappedEarly, gappedLate, List.cons_append, List.nil_append, List.mem_cons,
      List.not_mem_nil, or_false] at hd
    rcases hd with rfl | rfl | rfl | rfl | rfl
    all_goals rfl
  distinct := by decide
  room := by decide
  after := by decide
  ascending := by decide
  uncovered := by decide +kernel
  ordered := by decide

def gappedRun : List Arrival :=
  gappedEarly.map (fun d => .alone (.delta d)) ++
    .alone (.snapshot (exampleSnapshot none)) :: gappedLate.map fun d => .alone (.delta d)

def gappedLiveRun : List Arrival :=
  .alone (.snapshot (exampleSnapshot none)) :: gappedInOrder.map fun d => .alone (.delta d)

theorem book_eq_of_gapped_race :
    let new := empty exampleKey { verify := true } 4
    (new.run gappedRun).book = (new.run gappedLiveRun).book ∧
      (new.run gappedRun).phase = (new.run gappedLiveRun).phase :=
  book_eq_of_race (.empty 0) 0 gapped_race (by decide +kernel) rfl rfl

end Channel

end MarketDepth
