/-
MarketDepth/Proofs/Channel/Counts.lean

What a message adds to the counts of its book.

The outcome of a message says which count it adds to, but it does not say all: a
snapshot that is loaded and then ends out of step is counted as a snapshot and as a
desync, though its outcome is the latter only; and the held messages that a snapshot
applies are counted as applied, though they come with no outcome of their own, also when
the book fails on one behind them.

Main result: `Channel.take_counts`.
-/
import MarketDepth.Proofs.Channel.Balance

namespace MarketDepth

namespace Outcome

/-- An outcome without its figures. -/
inductive Kind
  | applied
  | held
  | discarded
  | synced
  | desynced
deriving DecidableEq, Repr

def kind : Outcome → Kind
  | applied => .applied
  | held => .held
  | discarded => .discarded
  | synced .. => .synced
  | desynced _ => .desynced

end Outcome

/-! ### The messages that a book takes -/

namespace Book

variable {b b₁ b' : Book} {d : Delta} {ds front : List Delta} {reason : Desync}

/-- Of messages that reach a book in turn, those that it takes before it fails on one. -/
def taken (b : Book) (pool : Pool) (now : Instant) : List Delta → List Delta
  | [] => []
  | d :: ds =>
    let r := b.applyDelta d pool now
    match r.error with
    | none => d :: r.book.taken r.pool now ds
    | some _ => []

/-- The book takes some of the messages, and not the others. -/
theorem taken_append_untaken (b : Book) (pool : Pool) (now : Instant) (ds : List Delta) :
    b.taken pool now ds ++ b.untaken pool now ds = ds := by
  induction ds generalizing b pool with
  | nil => rfl
  | cons d ds ih =>
    unfold Book.taken untaken
    cases herror : (b.applyDelta d pool now).error with
    | none =>
      simp only [herror, List.cons_append]
      exact congrArg (d :: ·) (ih _ _)
    | some e => simp only [herror, List.nil_append]

theorem TakesAll.taken_eq (h : b.TakesAll ds b') (pool : Pool) (now : Instant) :
    b.taken pool now ds = ds := by
  have hall := b.taken_append_untaken pool now ds
  rwa [h.untaken_eq_nil, List.append_nil] at hall

theorem TakesAll.taken_append (h : b.TakesAll front b₁) (hfail : b₁.FailsOn d b' reason)
    (pool : Pool) (now : Instant) : b.taken pool now (front ++ d :: ds) = front := by
  have hall := b.taken_append_untaken pool now (front ++ d :: ds)
  rw [h.untaken_append hfail] at hall
  exact List.append_cancel_right hall

end Book

namespace Channel

variable {c : Channel}

/-! ### What a message adds -/

/-- One if the message has an outcome of this kind. -/
def ended (kind : Outcome.Kind) (c : Channel) (a : Arrival) : Nat :=
  match (c.take a).outcome with
  | .ok outcome => if outcome.kind = kind then 1 else 0
  | .error _ => 0

/-- One if the message is a snapshot that leaves the book in need of another. -/
def lost (c : Channel) (a : Arrival) : Nat :=
  match a.payload, (c.take a).outcome with
  | .snapshot _, .ok (.desynced _) => 1
  | _, _ => 0

/-- How many of the held messages are applied when the message comes: those that a
snapshot does not cover and that the book takes before it fails on one, if the snapshot is
loaded and has the right checksum. -/
def replayed (c : Channel) (a : Arrival) : Nat :=
  match a.payload with
  | .delta _ => 0
  | .snapshot s =>
    match c.book.load s with
    | .ok b => if b.Matches s.checksum then (b.taken a.pool 0 (c.freshHeld s.id)).length else 0
    | .error _ => 0

/-- How a message changes the counts of its book. -/
structure Counted (c : Channel) (a : Arrival) (stats : Stats) : Prop where
  held : stats.held = c.stats.held + c.ended .held a
  desyncs : stats.desyncs = c.stats.desyncs + c.ended .desynced a
  snapshots : stats.snapshots = c.stats.snapshots + (c.ended .synced a + c.lost a)
  applied : stats.applied = c.stats.applied + (c.ended .applied a + c.replayed a)

/-- **What a message adds to the counts of its book.** -/
theorem take_counts (h : c.Legal) (a : Arrival) : c.Counted a (c.take a).channel.stats := by
  obtain ⟨p, pool, clock⟩ := a
  have heffect := take_effect h ⟨p, pool, clock⟩
  suffices hcounts : ∀ c' o, c.Effect p c' o → (c.take ⟨p, pool, clock⟩).outcome = o →
      c.Counted ⟨p, pool, clock⟩ c'.stats from hcounts _ _ heffect rfl
  intro c' o heffect houtcome
  cases heffect with
  | refused load =>
    constructor <;> simp [ended, lost, replayed, houtcome, load]
  | @mismatched s b expected load carried wrong =>
    -- nothing that was held is applied, as the snapshot itself is wrong
    have hnot : ¬b.Matches s.checksum := by
      intro hsum
      have := wrong.symm.trans (hsum expected carried)
      cases this
    constructor <;> simp [ended, lost, replayed, houtcome, load, hnot, Outcome.kind, desync, reload]
  | drained load checked takes =>
    constructor <;> simp [ended, lost, replayed, houtcome, load, checked, takes.taken_eq,
      Outcome.kind, countDiscarded, reload]
  | stopped load checked fresh takes fails =>
    constructor <;> simp [ended, lost, replayed, houtcome, load, checked, fresh,
      takes.taken_append fails, Outcome.kind, desync, countDiscarded, reload]
  | invalid | waits | overflows | applied | failed | dropped =>
    constructor <;> simp [ended, lost, replayed, houtcome, Outcome.kind, desync, countDiscarded,
      countApplied]

end Channel

end MarketDepth
