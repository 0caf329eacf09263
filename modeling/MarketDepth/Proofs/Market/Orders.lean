/-
MarketDepth/Proofs/Market/Orders.lean

Orders on a book as it is, and on a copy of it.

What a market order would do can be found out on the book itself or on a copy.  The two
ways ask in different places whether there is a book to be read.  The first looks for a
book that was ever restored, whether or not it was invalidated since, and leaves it to the
channel to refuse; the second leaves everything to the channel.  And where there is no
book, the market names the key that it was asked for and the channel the key of its book.
That this comes to the same is because a channel has the key under which it stands
(`Channel.Grown.book_key`).

What an order comes to is then told by the phase of the channel (`Market.Reply`).

Main result: `Market.simulate_eq_of_run`.
-/
import MarketDepth.Proofs.Book.Figures
import MarketDepth.Proofs.Market.Channels

namespace MarketDepth

/-- The book of a channel has the key for which it was opened. -/
theorem Channel.Grown.book_key {c : Channel} {key : Key} {limit : Nat} (h : c.Grown key limit) :
    c.book.key = key := by
  obtain ⟨options, as, rfl⟩ := h
  exact (run_empty_kin key options limit as).key

namespace Market

open Simulation (Failure Answers)

variable {m : Market} {key : Key} {limit : Nat} {c : Channel} {amount : Decimal} {buy : Bool}

/-- What a market order would do to a copy of a book, if there is one that may be read. -/
def simulateCopy (m : Market) (key : Key) (amount : Decimal) (buy : Bool) :
    Except Failure Simulation :=
  match m.view key with
  | .ok v => v.simulate amount buy
  | .error e => .error (.refused e)

/-! ### Both ways -/

theorem simulate_of_none (h : m.find? key = none) :
    m.simulate key amount buy = .error (.refused (.notFound key)) := by
  rw [simulate, restored?, h]
  rfl

/-- A book that was never restored is sorted out by the market, and not by its channel. -/
theorem simulate_of_some (h : m.find? key = some c) (hkey : c.book.key = key) :
    m.simulate key amount buy = c.simulate amount buy := by
  rw [simulate, restored?, h]
  cases hrestored : c.book.restored with
  | false =>
    have hunreadable : c.book.readable = .error (.notFound key) := by
      rw [← hkey]
      exact Book.readable_eq_notFound_iff.mpr hrestored
    rw [Option.filter_some_neg (by simp [hrestored]), Channel.simulate, hunreadable]
  | true => rw [Option.filter_some_pos (by simp [hrestored])]

theorem simulateCopy_of_none (h : m.find? key = none) :
    m.simulateCopy key amount buy = .error (.refused (.notFound key)) := by
  rw [simulateCopy, view, h]

theorem simulateCopy_of_some (h : m.find? key = some c) :
    m.simulateCopy key amount buy = c.simulate amount buy := by
  rw [simulateCopy, view, h]
  show (match c.view with
    | .ok v => v.simulate amount buy
    | .error e => .error (.refused e)) = c.simulate amount buy
  rw [Channel.view, Channel.simulate]
  cases c.book.readable with
  | error e => rfl
  | ok u => cases buy <;> rfl

theorem simulate_eq_simulateCopy (h : m.Grown limit) (key : Key) (amount : Decimal) (buy : Bool) :
    m.simulate key amount buy = m.simulateCopy key amount buy := by
  cases hfind : m.find? key with
  | none => rw [simulate_of_none hfind, simulateCopy_of_none hfind]
  | some c =>
    rw [simulate_of_some hfind (h.channels key c hfind).book_key, simulateCopy_of_some hfind]

/-! ### What an order comes to -/

/-- What an order can come to, and in which state of the book: of a book that is in step
it depends on the amount, and at last on whether the proceeds are in range. -/
inductive Reply (m : Market) (key : Key) (amount : Decimal) : Except Failure Simulation → Prop
  /-- No book has the key, or one that no snapshot was ever loaded to; whether it holds
  changes or was given up, even before a snapshot came, makes no difference. -/
  | notFound (unrestored : ∀ c, m.find? key = some c → c.book.restored = false) :
      Reply m key amount (.error (.refused (.notFound key)))
  /-- The book waits for a new snapshot. -/
  | invalidated {c : Channel} {reason : String} (find : m.find? key = some c)
      (awaiting : c.phase = .awaiting) (restored : c.book.restored = true)
      (invalidation : c.book.invalidation = some reason) :
      Reply m key amount (.error (.refused (.invalidated key reason)))
  | invalidAmount {c : Channel} (find : m.find? key = some c) (synced : c.phase = .synced)
      (amount_le : amount ≤ .zero) : Reply m key amount (.error (.refused (.invalidAmount amount)))
  | overflow {c : Channel} (find : m.find? key = some c) (synced : c.phase = .synced)
      (pos : .zero < amount) : Reply m key amount (.error (.refused .overflow))
  | simulated {c : Channel} {r : Simulation} (find : m.find? key = some c)
      (synced : c.phase = .synced) (pos : .zero < amount) : Reply m key amount (.ok r)

/-- An order on a book that is in step. -/
theorem reply_of_synced (h : c.Grown key limit) (hfind : m.find? key = some c)
    (hsynced : c.phase = .synced) : m.Reply key amount (c.simulate amount buy) := by
  have hreadable : c.book.readable = .ok () :=
    Book.readable_eq_ok_iff.mpr (h.legal.synced hsynced).2
  have hanswers : Answers _ amount (c.book.simulate amount buy) :=
    (Book.legible_of_sound h.sound).simulate amount buy
  rw [Channel.simulate, hreadable]
  by_cases hamount : amount ≤ .zero
  · rw [hanswers.refused.mpr hamount]
    exact .invalidAmount hfind hsynced hamount
  · have hpos : .zero < amount := Int.not_le.mp hamount
    obtain ⟨r, hr⟩ | hoverflow := hanswers.answered hpos
    · rw [hr]
      exact .simulated hfind hsynced hpos
    · rw [hoverflow]
      exact .overflow hfind hsynced hpos

/-- An order on any other book is refused before the amount is looked at. -/
theorem reply_of_unsynced (h : c.Grown key limit) (hfind : m.find? key = some c)
    (hphase : c.phase ≠ .synced) : m.Reply key amount (c.simulate amount buy) := by
  have hmarks := mt h.legal.synced_iff.mpr hphase
  rw [Channel.simulate, Book.readable, h.book_key]
  cases hrestored : c.book.restored with
  | false =>
    refine .notFound fun c' hc' => ?_
    obtain rfl := Option.some.inj (hfind.symm.trans hc')
    exact hrestored
  | true =>
    cases hinvalid : c.book.invalidation with
    | none => exact absurd ⟨hrestored, hinvalid⟩ hmarks
    | some reason =>
      -- the book of a channel that never saw a snapshot is not restored
      have hlate : ¬(c.phase = .unsynced ∨ c.phase = .holding) := by
        intro early
        rw [h.legal.book_of_early early] at hrestored
        cases hrestored
      have hawaiting : c.phase = .awaiting := by
        cases hp : c.phase with
        | unsynced => exact absurd (.inl hp) hlate
        | holding => exact absurd (.inr hp) hlate
        | synced => exact absurd hp hphase
        | awaiting => rfl
      exact .invalidated hfind hawaiting hrestored hinvalid

theorem reply_of_grown (h : m.Grown limit) (key : Key) (amount : Decimal) (buy : Bool) :
    m.Reply key amount (m.simulate key amount buy) := by
  cases hfind : m.find? key with
  | none =>
    rw [simulate_of_none hfind]
    refine .notFound fun c hc => ?_
    rw [hfind] at hc
    cases hc
  | some c =>
    have hgrown := h.channels key c hfind
    rw [simulate_of_some hfind hgrown.book_key]
    by_cases hphase : c.phase = .synced
    · exact reply_of_synced hgrown hfind hphase
    · exact reply_of_unsynced hgrown hfind hphase

/-- **An order on a book and on a copy of it** come to the same after any calls on a new
market, for every key, amount and direction: to equal simulations, or to the same error.
And the error is one of four, each in states of its own.  There is no book exactly where
no snapshot was ever loaded; a book that waits for a new snapshot is refused with its
reason, whatever the amount; and of a book that is in step, an amount that is not positive
is refused, and otherwise only proceeds that are too large. -/
theorem simulate_eq_of_run (defaults : Options) (limit : Nat) (pool : Pool) (calls : List Call)
    (key : Key) (amount : Decimal) (buy : Bool) :
    let m := (empty defaults limit pool).run calls
    m.simulate key amount buy = m.simulateCopy key amount buy ∧
      m.Reply key amount (m.simulate key amount buy) := by
  intro m
  have hgrown : m.Grown limit := grown_of_run defaults limit pool calls
  exact ⟨simulate_eq_simulateCopy hgrown key amount buy, reply_of_grown hgrown key amount buy⟩

end Market

end MarketDepth
