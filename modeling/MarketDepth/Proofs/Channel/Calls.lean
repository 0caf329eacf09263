/-
MarketDepth/Proofs/Channel/Calls.lean

What a channel asks of its book.

Whatever a message does to a channel, it does to the book by calls that anyone may
make: to load a snapshot, to apply changes and to count as invalidated.  So what is
shown of the runs of a book (`Book.run`) holds of the book of a channel.

Main results: `Channel.book_of_run`, and `Channel.sound_of_run`, that both sides of
the book are in strict order, with positive levels.
-/
import MarketDepth.Proofs.Book.Order
import MarketDepth.Proofs.Channel.Phase

namespace MarketDepth

namespace Book

variable {b b₁ b' : Book} {s : Snapshot} {d : Delta} {ds : List Delta} {reason : Desync}

/-- Some calls make the one book the other. -/
def LeadsTo (b b' : Book) : Prop := ∃ calls, b.run calls = b'

theorem LeadsTo.refl (b : Book) : b.LeadsTo b := ⟨[], rfl⟩

theorem LeadsTo.trans (h : b.LeadsTo b₁) (h' : b₁.LeadsTo b') : b.LeadsTo b' := by
  obtain ⟨calls, rfl⟩ := h
  obtain ⟨calls', rfl⟩ := h'
  exact ⟨calls ++ calls', b.run_append calls calls'⟩

/-- Whatever is asked of a book, it is about the same key. -/
theorem LeadsTo.key (h : b.LeadsTo b') : b'.key = b.key := by
  obtain ⟨calls, rfl⟩ := h
  exact run_invariant (P := fun x => x.key = b.key) rfl
    (fun x a hx => (x.perform_key a).trans hx) calls

theorem leadsTo_invalidate (b : Book) (reason : String) : b.LeadsTo (b.invalidate reason) :=
  ⟨[⟨.invalidate reason, .empty 0, 0⟩], rfl⟩

theorem leadsTo_of_load (h : b.load s = .ok b') : b.LeadsTo b' := by
  obtain ⟨pool, hrestore⟩ := restore_of_load h (.empty 0) 0
  refine ⟨[⟨.restore s.bids s.asks s.id, .empty 0, 0⟩], ?_⟩
  simp only [run, Book.perform, hrestore]

/-- A message asks of the book to apply its changes, and is done, or fails, then. -/
theorem leadsTo_applyDelta (b : Book) (d : Delta) :
    b.LeadsTo (b.applyDelta d (.empty 0) 0).book := by
  rw [applyDelta_book]
  exact ⟨[⟨.apply d.id d.changes, .empty 0, 0⟩], rfl⟩

theorem Takes.leadsTo (h : b.Takes d b') : b.LeadsTo b' := by
  rw [← h.book (.empty 0) 0]
  exact b.leadsTo_applyDelta d

theorem FailsOn.leadsTo (h : b.FailsOn d b' reason) : b.LeadsTo b' := by
  rw [← h.book (.empty 0) 0]
  exact b.leadsTo_applyDelta d

theorem TakesAll.leadsTo (h : b.TakesAll ds b') : b.LeadsTo b' := by
  induction h with
  | nil b => exact .refl b
  | cons hd _ ih => exact hd.leadsTo.trans ih

end Book

namespace Channel

variable {c c' : Channel} {p : Payload} {o : Except BookError Outcome}

theorem Effect.leadsTo (h : c.Effect p c' o) : c.book.LeadsTo c'.book := by
  cases h with
  | refused | invalid | waits | dropped => exact .refl _
  | overflows => exact Book.leadsTo_invalidate _ _
  | mismatched load => exact (Book.leadsTo_of_load load).trans (Book.leadsTo_invalidate _ _)
  | drained load _ takes => exact (Book.leadsTo_of_load load).trans takes.leadsTo
  | stopped load _ _ takes fails =>
    have hfails := takes.leadsTo.trans fails.leadsTo
    exact (Book.leadsTo_of_load load).trans (hfails.trans (Book.leadsTo_invalidate _ _))
  | applied _ takes => exact takes.leadsTo
  | failed _ fails => exact fails.leadsTo.trans (Book.leadsTo_invalidate _ _)

/-- The book of a channel is one that calls on a new book have made. -/
theorem book_of_run (key : Key) (options : Options) (limit : Nat) (as : List Arrival) :
    (Book.empty key options).LeadsTo ((empty key options limit).run as).book :=
  run_invariant (P := fun _ c => (Book.empty key options).LeadsTo c.book) (.refl _)
    (fun as a h =>
      h.trans (take_effect (run_legal (legal_empty key options limit) as) a).leadsTo) as

/-- Both sides of the book are in order, whatever came. -/
theorem sound_of_run (key : Key) (options : Options) (limit : Nat) (as : List Arrival) :
    ((empty key options limit).run as).book.EachSide Book.SoundOn := by
  obtain ⟨calls, hbook⟩ := book_of_run key options limit as
  rw [← hbook]
  exact Book.run_sound key options calls

end Channel

end MarketDepth
