/-
MarketDepth/Proofs/Channel/Balance.lean

Where the changes that a channel accepts end up.

Changes are applied, counted as dropped, or held; or the book fails on them and
goes out of step.  One more thing can happen to held changes: a snapshot that ends
out of step drops the rest of them, those after the one on which the book fails,
or all of them if its own checksum is wrong, and counts none of these.  These are
the abandoned ones.

Main result: `Channel.balance_of_run`, that every accepted message is in exactly
one of the five places, and that the first four are enough exactly if the run
abandons nothing.
-/
import MarketDepth.Proofs.Channel.Phase

namespace MarketDepth

/-! ### The messages that a book does not take -/

namespace Book

variable {b b₁ b' : Book} {d : Delta} {ds taken : List Delta} {reason : Desync}

/-- What is left of messages that reach a book in turn when it fails on one: that
one and those after it. -/
def untaken (b : Book) (pool : Pool) (now : Instant) : List Delta → List Delta
  | [] => []
  | d :: ds =>
    let r := b.applyDelta d pool now
    match r.error with
    | none => r.book.untaken r.pool now ds
    | some _ => d :: ds

theorem TakesAll.untaken_eq_nil (h : b.TakesAll ds b') (pool : Pool) (now : Instant) :
    b.untaken pool now ds = [] := by
  induction h generalizing pool with
  | nil b => rfl
  | cons hd _ ih =>
    unfold untaken
    simp only [hd.error, hd.book]
    exact ih _

theorem TakesAll.untaken_append (h : b.TakesAll taken b₁) (hfail : b₁.FailsOn d b' reason)
    (pool : Pool) (now : Instant) : b.untaken pool now (taken ++ d :: ds) = d :: ds := by
  induction h generalizing pool with
  | nil b =>
    obtain ⟨e, herror, -⟩ := hfail.error pool now
    rw [List.nil_append, untaken]
    simp only [herror]
  | cons hd _ ih =>
    rw [List.cons_append, untaken]
    simp only [hd.error, hd.book]
    exact ih hfail _

instance (b : Book) : (checksum : Option UInt32) → Decidable (b.Matches checksum)
  | none => .isTrue fun _ h => by cases h
  | some expected =>
    match h : b.compareChecksum expected with
    | .ok () => .isTrue fun e he => Option.some.inj he ▸ h
    | .error _ => .isFalse fun hsum => by
      have := hsum expected rfl
      rw [h] at this
      cases this

end Book

namespace Channel

variable {c c' : Channel}

/-! ### Where a message ends up -/

/-- One if the message brings changes and is not refused. -/
def accepted (c : Channel) (a : Arrival) : Nat :=
  match a.payload, (c.take a).outcome with
  | .delta _, .ok _ => 1
  | _, _ => 0

/-- The changes on which the book fails when a message comes, if it goes out of
step on them: those that come with the message, or some that were held for it. -/
def failure? (c : Channel) (a : Arrival) : Option Delta :=
  match (c.take a).outcome, a.payload with
  | .ok (.desynced _), .delta d => if c.phase = .synced then some d else none
  | .ok (.desynced _), .snapshot s =>
    match c.book.load s with
    | .ok b =>
      if b.Matches s.checksum then (b.untaken a.pool 0 (c.freshHeld s.id)).head? else none
    | .error _ => none
  | _, _ => none

/-- The held changes that a snapshot drops without a count: those after the one on
which the book fails, or all of them if its own checksum is wrong. -/
def abandoned (c : Channel) (a : Arrival) : List Delta :=
  match a.payload with
  | .delta _ => []
  | .snapshot s =>
    match c.book.load s with
    | .ok b =>
      if b.Matches s.checksum then (b.untaken a.pool 0 (c.freshHeld s.id)).tail else c.held
    | .error _ => []

/-- The changes that the channel has accounted for. -/
def accounted (c : Channel) : Nat := c.stats.applied + c.stats.discarded + c.held.length

theorem held_length_eq (c : Channel) (id : Int) :
    c.held.length = (c.staleHeld id).length + (c.freshHeld id).length := by
  rw [← c.heldInOrder_perm.length_eq, c.heldInOrder_eq id, List.length_append]

/-! ### The balance -/

/-- Each message keeps the balance. -/
theorem take_balance (h : c.Legal) (a : Arrival) :
    (c.take a).channel.accounted + (c.failure? a).toList.length + (c.abandoned a).length =
      c.accounted + c.accepted a := by
  obtain ⟨p, pool, clock⟩ := a
  have heffect := take_effect h ⟨p, pool, clock⟩
  unfold failure? abandoned accepted accounted
  generalize (c.take ⟨p, pool, clock⟩).channel = c', (c.take ⟨p, pool, clock⟩).outcome = o
    at heffect ⊢
  cases heffect with
  | refused load => simp [load]
  | @mismatched s b expected load carried wrong =>
    -- all that was held is abandoned
    have hnot : ¬b.Matches s.checksum := by
      intro hsum
      have := wrong.symm.trans (hsum expected carried)
      cases this
    simp [load, hnot, desync, reload]
  | @drained s b b' load checked takes =>
    -- what was held is covered, and counted as dropped, or else it is applied
    have hheld := c.held_length_eq s.id
    simp only [load, checked, takes.untaken_eq_nil pool 0, countDiscarded, reload]
    simp
    omega
  | @stopped s b b₁ b' taken rest d reason load checked fresh takes fails =>
    -- of what is not covered one failed, and those after it are abandoned
    have hheld := c.held_length_eq s.id
    rw [fresh] at hheld
    simp only [load, checked, fresh, takes.untaken_append fails pool 0, desync, countDiscarded,
      reload]
    simp at hheld ⊢
    omega
  | invalid => simp
  | waits =>
    simp
    omega
  | overflows early =>
    -- the book goes out of step, but for no failure of its own
    have hphase : c.phase ≠ .synced := by
      rcases early with hp | hp <;> simp [hp]
    simp [hphase, desync, countDiscarded]
    omega
  | applied =>
    simp [countApplied]
    omega
  | failed synced =>
    have hheld := (h.synced synced).1
    simp [synced, hheld, desync]
  | dropped =>
    simp [countDiscarded]
    omega

/-- The number of messages of a run on whose changes the book fails. -/
def failures (c : Channel) (as : List Arrival) : Nat :=
  c.tally (fun c a => (c.failure? a).toList.length) as

/-- The number of changes that a run abandons. -/
def losses (c : Channel) (as : List Arrival) : Nat :=
  c.tally (fun c a => (c.abandoned a).length) as

/-- A run keeps the balance. -/
theorem run_balance (h : c.Legal) (as : List Arrival) :
    (c.run as).accounted + c.failures as + c.losses as = c.accounted + c.tally accepted as := by
  unfold failures losses
  induction as generalizing c with
  | nil => rfl
  | cons a as ih =>
    have hstep := take_balance h a
    have hrest := ih ((take_effect h a).legal h)
    simp only [run, tally]
    omega

/-- **Where accepted changes end up**, after any run of a new channel: they are
applied, or counted as dropped, or held, or the book failed on them, or they were
abandoned.  So the first four account for all of them exactly if no message of the
run makes the channel abandon what it held. -/
theorem balance_of_run (key : Key) (options : Options) (limit : Nat) (as : List Arrival) :
    let new := empty key options limit
    let c := new.run as
    new.tally accepted as =
      c.stats.applied + c.stats.discarded + c.held.length + new.failures as + new.losses as ∧
    (new.tally accepted as =
        c.stats.applied + c.stats.discarded + c.held.length + new.failures as ↔
      ∀ before a after, as = before ++ a :: after → (new.run before).abandoned a = []) := by
  intro new c
  have hbalance : c.stats.applied + c.stats.discarded + c.held.length + new.failures as +
      new.losses as = 0 + new.tally accepted as :=
    run_balance (legal_empty key options limit) as
  have hlosses : new.losses as = 0 ↔
      ∀ before a after, as = before ++ a :: after → (new.run before).abandoned a = [] := by
    unfold losses
    rw [tally_eq_zero_iff]
    simp only [List.length_eq_zero_iff]
  constructor
  · omega
  · rw [← hlosses]
    omega

/-! Two messages are held for a snapshot, and there is a gap before the first: the
book fails on it, and the second is abandoned. -/

def gapHeld : List Arrival :=
  [.alone (.delta (bidDelta 12 99 5)), .alone (.delta (bidDelta 13 98 4))]

def gapSnapshot : Arrival := .alone (.snapshot (exampleSnapshot none))

def gapRun : List Arrival := gapHeld ++ [gapSnapshot]

theorem unbalanced_of_gapRun :
    let new := empty exampleKey { verify := true } 3
    let c := new.run gapRun
    ¬new.tally accepted gapRun =
      c.stats.applied + c.stats.discarded + c.held.length + new.failures gapRun := by
  intro new c h
  have hbalance : c.stats.applied + c.stats.discarded + c.held.length + new.failures gapRun +
      new.losses gapRun = 0 + new.tally accepted gapRun :=
    run_balance (legal_empty _ _ _) gapRun
  have hlosses : new.losses gapRun = 0 := by omega
  have hnone : ((new.run gapHeld).abandoned gapSnapshot).length = 0 :=
    tally_eq_zero_iff.mp hlosses gapHeld _ [] rfl
  have horder : (new.run gapHeld).heldInOrder = deltasOf gapHeld := by
    apply heldInOrder_eq_of_sorted
    · exact .refl (deltasOf gapHeld)
    · decide
  have hone : ((new.run gapHeld).abandoned gapSnapshot).length = 1 := by
    unfold abandoned gapSnapshot Arrival.alone
    simp only [freshHeld, horder]
    decide +kernel
  omega

end Channel

end MarketDepth
