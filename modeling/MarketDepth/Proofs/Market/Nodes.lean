/-
MarketDepth/Proofs/Market/Nodes.lean

Where the nodes of a market are.

All books of a market draw their nodes from one pool and hand them back to it.  Every
call leaves as many nodes out, but in no book, as there were before
(`Market.serve_elsewhere`); in a new market there are none.  So each node that was
ever made is on the free list, or was purged, or holds a level that rests in a book.

Main result: `Market.nodes_of_run`.
-/
import MarketDepth.Proofs.Market.Totals
import MarketDepth.Proofs.Pool.Lent

namespace MarketDepth

namespace ChannelTable

/-- How many levels rest in the books of a table. -/
def levelCount (t : ChannelTable) : Nat := t.foldr (fun p n => p.2.book.size + n) 0

/-- A channel that is put takes the place of the one that was found. -/
theorem levelCount_put (t : ChannelTable) (key : Key) (c : Channel) :
    (t.put key c).levelCount + ((t.find? key).map (·.book.size)).getD 0 =
      t.levelCount + c.book.size := t.sum_put (·.book.size) key c

end ChannelTable

namespace Market

variable {m : Market}

/-- How many levels rest in all books, by their overviews. -/
def levelCount (m : Market) : Nat :=
  m.overviews.foldr (fun o n => o.bidLevels + o.askLevels + n) 0

theorem levelCount_eq (m : Market) : m.levelCount = m.channels.levelCount := by
  rw [levelCount, overviews, List.foldr_map]
  rfl

/-- How many nodes are out, but in no book. -/
def elsewhere (m : Market) : Int := m.pool.lent - m.channels.levelCount

/-- A book that is not open yet has no levels. -/
theorem channelFor_size (m : Market) (key : Key) :
    (m.channelFor key).book.size = ((m.find? key).map (·.book.size)).getD 0 :=
  m.channelFor_share (f := (·.book.size)) key fun _ _ _ => rfl

theorem openBook_pool (m : Market) (key : Key) (options : Options) :
    (m.openBook key options).pool = m.pool := by
  unfold openBook
  cases m.find? key <;> rfl

theorem openBook_elsewhere (m : Market) (key : Key) (options : Options) :
    (m.openBook key options).elsewhere = m.elsewhere := by
  have hcount : (m.openBook key options).channels.levelCount = m.channels.levelCount :=
    m.openBook_sum (f := (·.book.size)) key options fun _ _ _ => rfl
  rw [elsewhere, elsewhere, hcount, openBook_pool]

theorem receive_elsewhere (m : Market) (message : Message) (clock : Nat → Instant) :
    (m.receive message clock).1.elsewhere = m.elsewhere := by
  have hstep := (m.channelFor message.key).receive_elsewhere message.payload m.pool clock
  have hput := m.channels.levelCount_put message.key
    ((m.channelFor message.key).receive message.payload m.pool clock).channel
  have hsize := m.channelFor_size message.key
  simp only [receive, elsewhere, Book.elsewhere, find?] at hstep hsize ⊢
  omega

/-- No call leaves a node behind or takes one that it does not use. -/
theorem serve_elsewhere (m : Market) (a : Call) : (m.serve a).1.elsewhere = m.elsewhere := by
  obtain ⟨request, clock⟩ := a
  cases request with
  | openBook key options => exact m.openBook_elsewhere key options
  | receive message => exact m.receive_elsewhere message clock

theorem run_elsewhere (m : Market) (calls : List Call) :
    (m.run calls).elsewhere = m.elsewhere := by
  induction calls generalizing m with
  | nil => rfl
  | cons a calls ih => exact (ih _).trans (m.serve_elsewhere a)

/-- **Where the nodes are**, after any calls on a new market with a new pool, whatever
became of them and whenever they came: each node that was made is free, or was purged,
or holds one of the levels that rest in the books.  And a book that is given up, with
whatever pool, hands over the nodes of its levels and no others: none is made or drawn,
and those of its bids and then of its asks come behind those that were free, of which
the oldest are purged. -/
theorem nodes_of_run (defaults : Options) (limit retention : Nat) (calls : List Call) :
    let m := (empty defaults limit (.empty retention)).run calls
    m.pool.allocated = m.pool.spareCount + m.pool.purged + m.levelCount ∧
      ∀ (b : Book) (pool : Pool) (now : Instant),
        let after := b.giveUp pool now
        after.allocated = pool.allocated ∧ after.reused = pool.reused ∧
          ∃ gone, pool.contents ++ (b.bids.levels ++ b.asks.levels) = gone ++ after.contents ∧
            after.purged = pool.purged + gone.length := by
  intro m
  have hrun : m.elsewhere = 0 := run_elsewhere _ calls
  refine ⟨?_, fun b pool now => b.giveUp_free pool now⟩
  rw [levelCount_eq]
  simp only [elsewhere, Pool.lent] at hrun
  omega

end Market

end MarketDepth
