/-
MarketDepth/Proofs/Channel/Run.lean

Runs of a channel.

A run is a list of messages as they come in.  The pool is shared with other
books, and between two messages of one book they may have done anything to it;
so each message of a run comes with a pool and a clock of its own, and nothing is
said of how these hang together.

Main results: `Channel.run_invariant`, the induction over a run in which a
property of what came so far and of the channel is carried from message to
message, and `Channel.run_eq_of_payloads`, that only the messages of a run
matter.
-/
import MarketDepth.Proofs.Channel.Effect

namespace MarketDepth

/-- A message as it comes in, with the pool that it meets and the times of its
accesses to it. -/
structure Arrival where
  payload : Payload
  pool : Pool
  clock : Nat → Instant

namespace Arrival

/-- The changes that came in, if it is changes. -/
def delta? (a : Arrival) : Option Delta :=
  match a.payload with
  | .delta d => some d
  | .snapshot _ => none

@[simp] theorem delta?_delta (d : Delta) (pool : Pool) (clock : Nat → Instant) :
    delta? ⟨.delta d, pool, clock⟩ = some d := rfl

@[simp] theorem delta?_snapshot (s : Snapshot) (pool : Pool) (clock : Nat → Instant) :
    delta? ⟨.snapshot s, pool, clock⟩ = none := rfl

/-- A message that meets an empty pool, at the start of time. -/
def alone (p : Payload) : Arrival := ⟨p, .empty 0, fun _ => 0⟩

end Arrival

/-- The messages with changes among those that came in. -/
def deltasOf (as : List Arrival) : List Delta := as.filterMap (·.delta?)

theorem deltasOf_concat (as : List Arrival) (a : Arrival) :
    deltasOf (as ++ [a]) = deltasOf as ++ a.delta?.toList := by
  cases h : a.delta? <;> simp [deltasOf, h]

namespace Channel

/-! ### Runs -/

/-- Receives a message that comes in. -/
def take (c : Channel) (a : Arrival) : Step := c.receive a.payload a.pool a.clock

/-- The channel after messages that come in one after the other. -/
def run (c : Channel) : List Arrival → Channel
  | [] => c
  | a :: as => (c.take a).channel.run as

theorem run_append (c : Channel) (as bs : List Arrival) :
    c.run (as ++ bs) = (c.run as).run bs := by
  induction as generalizing c with
  | nil => rfl
  | cons a as ih => exact ih _

theorem run_concat (c : Channel) (as : List Arrival) (a : Arrival) :
    c.run (as ++ [a]) = ((c.run as).take a).channel := c.run_append as [a]

/-- **Induction over a run**: what holds before the first message, and is kept by
each message, holds after any number of them. -/
theorem run_invariant {c : Channel} {P : List Arrival → Channel → Prop} (start : P [] c)
    (step : ∀ as a, P as (c.run as) → P (as ++ [a]) ((c.run as).take a).channel)
    (as : List Arrival) : P as (c.run as) := by
  -- the messages still to come are peeled off one by one, onto those that came
  suffices h : ∀ before after, P before (c.run before) →
      P (before ++ after) (c.run (before ++ after)) from h [] as start
  intro before after
  induction after generalizing before with
  | nil =>
    intro h
    rwa [List.append_nil]
  | cons a after ih =>
    intro h
    have hnext : P (before ++ [a]) (c.run (before ++ [a])) := by
      rw [run_concat]
      exact step before a h
    simpa using ih (before ++ [a]) hnext

theorem take_result_eq {c : Channel} {a b : Arrival} (h : a.payload = b.payload) :
    (c.take a).result = (c.take b).result := by
  unfold take
  rw [h]
  exact c.receive_result_eq a.pool b.pool a.clock b.clock b.payload

/-- Only the messages of a run matter: not the pools that they met, nor the times. -/
theorem run_eq_of_payloads {c : Channel} {as bs : List Arrival}
    (h : as.map (·.payload) = bs.map (·.payload)) : c.run as = c.run bs := by
  induction as generalizing c bs with
  | nil =>
    obtain rfl := List.map_eq_nil_iff.mp h.symm
    rfl
  | cons a as ih =>
    obtain ⟨b, bs, rfl⟩ : ∃ b bs', bs = b :: bs' := by
      cases bs with
      | nil => simp at h
      | cons b bs => exact ⟨b, bs, rfl⟩
    obtain ⟨hhead, htail⟩ := List.cons.inj h
    have hstep : (c.take a).channel = (c.take b).channel :=
      congrArg Prod.fst (take_result_eq hhead)
    rw [run, run, hstep]
    exact ih htail

/-! ### The snapshots of a run -/

/-- The snapshot that a message loads into the book, if it loads one. -/
def loads? (c : Channel) (a : Arrival) : Option Snapshot :=
  match a.payload with
  | .snapshot s =>
    match c.book.restore s.bids s.asks s.id a.pool (a.clock 0) with
    | .ok _ => some s
    | .error _ => none
  | .delta _ => none

/-- The snapshots that a run loads, in their order. -/
def loaded (c : Channel) : List Arrival → List Snapshot
  | [] => []
  | a :: as => (c.loads? a).toList ++ (c.take a).channel.loaded as

theorem loaded_append (c : Channel) (as bs : List Arrival) :
    c.loaded (as ++ bs) = c.loaded as ++ (c.run as).loaded bs := by
  induction as generalizing c with
  | nil => rfl
  | cons a as ih => simp only [List.cons_append, loaded, run, ih, List.append_assoc]

theorem loaded_concat (c : Channel) (as : List Arrival) (a : Arrival) :
    c.loaded (as ++ [a]) = c.loaded as ++ ((c.run as).loads? a).toList := by
  rw [loaded_append, loaded, loaded, List.append_nil]

variable {c : Channel} {s : Snapshot} {pool : Pool} {clock : Nat → Instant}

@[simp] theorem loads?_delta (d : Delta) : c.loads? ⟨.delta d, pool, clock⟩ = none := rfl

theorem loads?_of_load_error {e : BookError} (h : c.book.load s = .error e) :
    c.loads? ⟨.snapshot s, pool, clock⟩ = none := by
  rw [← c.book.restore_map_fst pool (clock 0)] at h
  unfold loads?
  cases hr : c.book.restore s.bids s.asks s.id pool (clock 0) with
  | error e => simp only [hr]
  | ok r => simp [hr, Except.map] at h

theorem loads?_of_load_ok {b : Book} (h : c.book.load s = .ok b) :
    c.loads? ⟨.snapshot s, pool, clock⟩ = some s := by
  rw [← c.book.restore_map_fst pool (clock 0)] at h
  unfold loads?
  cases hr : c.book.restore s.bids s.asks s.id pool (clock 0) with
  | error e => simp [hr, Except.map] at h
  | ok r => simp only [hr]

/-! ### Sums over a run -/

/-- The sum, over the messages of a run, of a number that hangs on the message
and on the channel that it meets. -/
def tally (f : Channel → Arrival → Nat) (c : Channel) : List Arrival → Nat
  | [] => 0
  | a :: as => f c a + (c.take a).channel.tally f as

theorem tally_append (f : Channel → Arrival → Nat) (c : Channel) (as bs : List Arrival) :
    c.tally f (as ++ bs) = c.tally f as + (c.run as).tally f bs := by
  induction as generalizing c with
  | nil => simp [tally, run]
  | cons a as ih => simp only [List.cons_append, tally, run, ih, Nat.add_assoc]

/-- A sum is nothing if and only if every message adds nothing. -/
theorem tally_eq_zero_iff {f : Channel → Arrival → Nat} {c : Channel} {as : List Arrival} :
    c.tally f as = 0 ↔ ∀ before a after, as = before ++ a :: after → f (c.run before) a = 0 := by
  constructor
  · rintro h before a after rfl
    rw [tally_append, tally] at h
    omega
  · intro h
    induction as generalizing c with
    | nil => rfl
    | cons a as ih =>
      have hhead : f c a = 0 := h [] a as rfl
      have htail : (c.take a).channel.tally f as = 0 := by
        apply ih
        rintro before b after rfl
        exact h (a :: before) b after rfl
      rw [tally, hhead, htail]

/-! ### Messages for examples -/

def exampleKey : Key := ⟨"binance", ⟨"BTC", "USDT"⟩, .spot⟩

/-- A level with a whole price and a whole amount. -/
def wholeLevel (price amount : UInt8) : Level :=
  let whole (n : UInt8) : Decimal :=
    .ofNat n.toNat (Nat.lt_trans n.toNat_lt (by decide))
  ⟨whole price, whole amount, none⟩

/-- Changes that set one bid. -/
def bidDelta (id : Int) (price amount : UInt8) : Delta :=
  ⟨id, [⟨.bid, .insert (wholeLevel price amount)⟩], none⟩

/-- One bid of one at 100 and one ask of two at 101, under the number 10. -/
def exampleSnapshot (checksum : Option UInt32) : Snapshot :=
  ⟨10, [wholeLevel 100 1], [wholeLevel 101 2], checksum⟩

theorem take_alone_snapshot (c : Channel) (s : Snapshot) :
    c.take (.alone (.snapshot s)) = c.receiveSnapshot s (.empty 0) fun _ => 0 := rfl

end Channel

end MarketDepth
