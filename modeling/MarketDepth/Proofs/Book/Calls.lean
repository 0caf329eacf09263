/-
MarketDepth/Proofs/Book/Calls.lean

Calls on a book.

A book can be asked to load a snapshot, to apply changes, to count as invalidated,
and to be verified or not.  A run is a list of such calls.  As in the runs of a
channel, each comes with a pool and a time of its own, since other books may have
done anything to the pool in between.  A call that fails is part of the run like
any other: a refused one leaves the book as it was, and one that stops half-way
leaves it as it was then.

What is to hold of both sides of a book after any run has to be shown of two
things only, of the levels that a snapshot brings in and of the edits of a ladder
(`Book.perform_eachSide`).
-/
import MarketDepth.Proofs.Book.Messages
import MarketDepth.Proofs.Ladder.Sound

namespace MarketDepth.Book

/-- What can be asked of a book. -/
inductive Request
  /-- To load a snapshot. -/
  | restore (bids asks : List Level) (id : Int)
  /-- To apply one action to one side. -/
  | update (side : Side) (action : Action) (id : Int)
  /-- To apply the changes of one message. -/
  | apply (id : Int) (changes : List Change)
  /-- To count as invalidated until the next snapshot. -/
  | invalidate (reason : String)
  /-- To be verified from now on, or not to be. -/
  | setVerify (verify : Bool)

/-- A request as it comes in, with the pool that it meets and the time. -/
structure Call where
  request : Request
  pool : Pool
  now : Instant

variable {b b' : Book} {pool : Pool} {now : Instant} {id : Int} {cs : List Change}

/-- The book after a call, whether it fails or not. -/
def perform (b : Book) (a : Call) : Book :=
  match a.request with
  | .restore bids asks id =>
    match b.restore bids asks id a.pool a.now with
    | .ok (b', _) => b'
    | .error _ => b
  | .update side action id => (b.apply id [⟨side, action⟩] a.pool a.now).book
  | .apply id changes => (b.apply id changes a.pool a.now).book
  | .invalidate reason => b.invalidate reason
  | .setVerify verify => b.setVerify verify

/-- The book after calls that come in one after the other. -/
def run (b : Book) : List Call → Book
  | [] => b
  | a :: as => (b.perform a).run as

theorem run_append (b : Book) (as as' : List Call) : b.run (as ++ as') = (b.run as).run as' := by
  induction as generalizing b with
  | nil => rfl
  | cons a as ih => exact ih _

theorem run_concat (b : Book) (as : List Call) (a : Call) :
    b.run (as ++ [a]) = (b.run as).perform a := b.run_append as [a]

/-- What every call keeps holds after any run. -/
theorem run_invariant {P : Book → Prop} (start : P b) (step : ∀ b a, P b → P (b.perform a))
    (as : List Call) : P (b.run as) := by
  induction as generalizing b with
  | nil => exact start
  | cons a as ih => exact ih (step b a start)

/-! ### Loading -/

/-- A snapshot is loaded, or it is refused and the book stays as it was. -/
theorem perform_restore_cases {a : Call} {bids asks : List Level}
    (h : a.request = .restore bids asks id) :
    (∃ bids' asks', b.intakeSides bids asks = .ok (bids', asks') ∧
      b.perform a = { b with
        bids := { b.bids with levels := bids' }
        asks := { b.asks with levels := asks' }
        lastId := id, restored := true, invalidation := none }) ∨
    ∃ fault, b.intakeSides bids asks = .error fault ∧ b.perform a = b := by
  rw [perform, h]
  cases hsides : b.intakeSides bids asks with
  | error fault =>
    refine .inr ⟨fault, rfl, ?_⟩
    dsimp only
    rw [restore, hsides]
  | ok sides =>
    obtain ⟨pool', hr⟩ := restore_of_intakeSides hsides id a.pool a.now
    refine .inl ⟨sides.1, sides.2, rfl, ?_⟩
    dsimp only
    rw [hr]

/-! ### Key and options -/

/-- Only one request is about the options, and none about the key. -/
theorem perform_kin {a : Call} (h : ∀ verify, a.request ≠ .setVerify verify) :
    Kin b (b.perform a) := by
  obtain ⟨request, pool, now⟩ := a
  cases request with
  | restore bids asks id =>
    obtain ⟨bids', asks', -, hloaded⟩ | ⟨fault, -, hrefused⟩ :=
      perform_restore_cases (b := b) (a := ⟨.restore bids asks id, pool, now⟩) rfl
    · rw [hloaded]
      exact ⟨rfl, rfl, rfl, rfl⟩
    · rw [hrefused]
      exact .refl b
  | update side action id => exact (apply_frame id _).toKin
  | apply id cs => exact (apply_frame id cs).toKin
  | invalidate reason => exact .invalidate b reason
  | setVerify verify => exact absurd rfl (h verify)

theorem perform_options {a : Call} (h : ∀ verify, a.request ≠ .setVerify verify) :
    (b.perform a).options = b.options := (perform_kin h).options

theorem perform_key (b : Book) (a : Call) : (b.perform a).key = b.key := by
  by_cases h : ∃ verify, a.request = .setVerify verify
  · obtain ⟨verify, hrequest⟩ := h
    rw [perform, hrequest]
    rfl
  · exact (perform_kin (not_exists.mp h)).key

/-- And it is not about how levels are named. -/
theorem perform_addressing (b : Book) (a : Call) :
    (b.perform a).options.addressing = b.options.addressing := by
  by_cases h : ∃ verify, a.request = .setVerify verify
  · obtain ⟨verify, hrequest⟩ := h
    rw [perform, hrequest]
    rfl
  · exact congrArg Options.addressing (perform_options (not_exists.mp h))

/-! ### What holds of both sides -/

/-- What holds of each side of a book. -/
def EachSide (Q : Side → Ladder → Prop) (b : Book) : Prop := ∀ side, Q side (b.ladder side)

variable {Q : Side → Ladder → Prop}

/-- The actions that set only levels of some kind keep a property of ladders. -/
def KeptBySetting (P : Level → Prop) (addressing : Addressing) (Q : Side → Ladder → Prop) : Prop :=
  ∀ side l l' action, (∀ level, action.Sets level → P level) → Q side l →
    l.Edit addressing action l' → Q side l'

/-- The actions that pass the check keep a property of ladders. -/
def KeptByEdits (addressing : Addressing) (Q : Side → Ladder → Prop) : Prop :=
  ∀ side l l' action, (∀ level, action.Sets level → level.Settable) → Q side l →
    l.Edit addressing action l' → Q side l'

theorem eachSide_iff : b.EachSide Q ↔ Q .bid b.bids ∧ Q .ask b.asks := by
  constructor
  · intro h
    exact ⟨h .bid, h .ask⟩
  · rintro ⟨hbids, hasks⟩ side
    cases side with
    | bid => exact hbids
    | ask => exact hasks

theorem eachSide_setLadder {side : Side} {l : Ladder} (h : b.EachSide Q) (hl : Q side l) :
    (b.setLadder side l).EachSide Q := by
  cases side with
  | bid => exact eachSide_iff.mpr ⟨hl, h .ask⟩
  | ask => exact eachSide_iff.mpr ⟨h .bid, hl⟩

variable {P : Level → Prop}

theorem applyChange_keeps {c : Change} {r : Book × Pool}
    (hkept : KeptBySetting P b.options.addressing Q)
    (hsets : ∀ level, c.action.Sets level → P level) (h : b.EachSide Q)
    (happly : b.applyChange c pool now = .ok r) : r.1.EachSide Q := by
  unfold applyChange at happly
  cases hl : (b.ladder c.side).apply b.options.addressing c.action pool now with
  | error e => simp [hl, Except.map] at happly
  | ok q =>
    rw [hl] at happly
    obtain rfl := Except.ok.inj happly
    exact eachSide_setLadder h (hkept _ _ _ _ hsets (h c.side) (Ladder.apply_edit hl))

theorem applyInTurn_keeps (hkept : KeptBySetting P b.options.addressing Q)
    (hsets : ∀ c ∈ cs, ∀ level, c.action.Sets level → P level) (h : b.EachSide Q) :
    (b.applyInTurn pool now cs).book.EachSide Q := by
  induction cs generalizing b pool with
  | nil => exact h
  | cons c rest ih =>
    obtain ⟨hc, hrest⟩ := List.forall_mem_cons.mp hsets
    rw [applyInTurn]
    cases hr : b.applyChange c pool now with
    | error e => exact h
    | ok r =>
      refine ih ?_ hrest (applyChange_keeps hkept hc h hr)
      rw [(applyChange_ok hr).1.options]
      exact hkept

/-- Changes keep what edits keep, also if one of them stops the others. -/
theorem apply_keeps (hkept : KeptBySetting P b.options.addressing Q)
    (hsets : checkChanges cs = .ok () → ∀ c ∈ cs, ∀ level, c.action.Sets level → P level)
    (h : b.EachSide Q) : (b.apply id cs pool now).book.EachSide Q := by
  unfold apply
  cases hm : b.checkMessage id cs with
  | error e => exact h
  | ok u =>
    obtain ⟨-, -, hcheck⟩ := checkMessage_ok hm
    have hturn : (b.applyInTurn pool now cs).book.EachSide Q :=
      applyInTurn_keeps hkept (hsets hcheck) h
    dsimp only
    cases (b.applyInTurn pool now cs).error with
    | some e => exact hturn
    | none =>
      -- the last number alone is new
      exact eachSide_iff.mpr ⟨hturn .bid, hturn .ask⟩

/-- The changes that a request asks for. -/
def Request.changes : Request → List Change
  | .update side action _ => [⟨side, action⟩]
  | .apply _ changes => changes
  | .restore _ _ _ | .invalidate _ | .setVerify _ => []

/-- A call keeps what the edits that it asks for keep and what holds of the levels that it
brings in, if it brings in any. -/
theorem perform_keeps {a : Call} (hkept : KeptBySetting P b.options.addressing Q)
    (hsets : checkChanges a.request.changes = .ok () →
      ∀ c ∈ a.request.changes, ∀ level, c.action.Sets level → P level)
    (hintake : ∀ bids asks id, a.request = .restore bids asks id → ∀ bids' asks',
      b.intakeSides bids asks = .ok (bids', asks') →
        Q .bid { b.bids with levels := bids' } ∧ Q .ask { b.asks with levels := asks' })
    (h : b.EachSide Q) : (b.perform a).EachSide Q := by
  obtain ⟨request, pool, now⟩ := a
  cases request with
  | restore bids asks id =>
    obtain ⟨bids', asks', hsides, hloaded⟩ | ⟨fault, -, hrefused⟩ :=
      perform_restore_cases (b := b) (a := ⟨.restore bids asks id, pool, now⟩) rfl
    · rw [hloaded]
      exact eachSide_iff.mpr (hintake bids asks id rfl bids' asks' hsides)
    · rw [hrefused]
      exact h
  | update side action id => exact apply_keeps hkept hsets h
  | apply id cs => exact apply_keeps hkept hsets h
  | invalidate reason => exact eachSide_iff.mpr ⟨h .bid, h .ask⟩
  | setVerify verify => exact eachSide_iff.mpr ⟨h .bid, h .ask⟩

/-- A call keeps what the edits by valid changes keep and what holds of the levels that it
brings in: changes that are not valid are refused. -/
theorem perform_eachSide {a : Call} (hkept : KeptByEdits b.options.addressing Q)
    (hintake : ∀ bids asks id, a.request = .restore bids asks id → ∀ bids' asks',
      b.intakeSides bids asks = .ok (bids', asks') →
        Q .bid { b.bids with levels := bids' } ∧ Q .ask { b.asks with levels := asks' })
    (h : b.EachSide Q) : (b.perform a).EachSide Q := by
  refine perform_keeps hkept ?_ hintake h
  intro hcheck c hc
  exact Change.check_eq_ok_iff.mp (checkChanges_eq_ok_iff.mp hcheck c hc)

end MarketDepth.Book
