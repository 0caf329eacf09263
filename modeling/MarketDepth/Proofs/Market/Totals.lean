/-
MarketDepth/Proofs/Market/Totals.lean

Totals over all books of a market.

A call changes the channel of one key, so a total over the channels changes by what
that channel changes by (`ChannelTable.sum_put`).  What the messages of a run add to a
total is thus a tally over its calls, whichever books they are about and however these
are mixed.

Main result: `Market.run_sum`.
-/
import Mathlib.Algebra.GroupWithZero.Nat
import MarketDepth.Proofs.Market.Channels

namespace MarketDepth

namespace ChannelTable

/-- The sum of what is measured on each channel. -/
def sum (t : ChannelTable) (f : Channel → Nat) : Nat := t.foldr (fun p n => f p.2 + n) 0

/-- A channel that is put takes the place of the one that was found. -/
theorem sum_put (t : ChannelTable) (f : Channel → Nat) (key : Key) (c : Channel) :
    (t.put key c).sum f + ((t.find? key).map f).getD 0 = t.sum f + f c := by
  induction t with
  | nil => simp [put, find?, sum]
  | cons p rest ih =>
    simp only [put, find?]
    split
    · simp only [sum, List.foldr_cons, Option.map_some, Option.getD_some]
      omega
    · simp only [sum, List.foldr_cons] at ih ⊢
      omega

end ChannelTable

namespace Market

variable {m : Market} {f : Channel → Nat} {g : Channel → Arrival → Nat} {limit : Nat}

/-- The sum of a count over all books, by their overviews. -/
def total (m : Market) (count : Stats → Nat) : Nat :=
  (m.overviews.map fun o => count o.stats).sum

theorem total_eq (m : Market) (count : Stats → Nat) :
    m.total count = m.channels.sum fun c => count c.stats := by
  rw [total, overviews, List.map_map, ChannelTable.sum, List.sum_eq_foldr, List.foldr_map]
  rfl

/-- What is measured on the channel of a message when the message comes, summed up over
the calls of a run. -/
def tally (g : Channel → Arrival → Nat) (m : Market) : List Call → Nat
  | [] => 0
  | a :: as =>
    let share := match a.request with
      | .openBook .. => 0
      | .receive message => g (m.channelFor message.key) ⟨message.payload, m.pool, a.clock⟩
    share + (m.serve a).1.tally g as

theorem tally_receive (g : Channel → Arrival → Nat) (m : Market) (message : Message)
    (clock : Nat → Instant) :
    m.tally g [⟨.receive message, clock⟩] =
      g (m.channelFor message.key) ⟨message.payload, m.pool, clock⟩ := rfl

theorem run_append (m : Market) (as bs : List Call) : m.run (as ++ bs) = (m.run as).run bs := by
  induction as generalizing m with
  | nil => rfl
  | cons a as ih => exact ih _

theorem tally_append (g : Channel → Arrival → Nat) (m : Market) (as bs : List Call) :
    m.tally g (as ++ bs) = m.tally g as + (m.run as).tally g bs := by
  induction as generalizing m with
  | nil => exact (Nat.zero_add _).symm
  | cons a as ih =>
    simp only [List.cons_append, tally, run, ih]
    omega

theorem tally_add (g h : Channel → Arrival → Nat) (m : Market) (calls : List Call) :
    m.tally (fun c a => g c a + h c a) calls = m.tally g calls + m.tally h calls := by
  induction calls generalizing m with
  | nil => rfl
  | cons a calls ih =>
    obtain ⟨request, clock⟩ := a
    cases request <;>
      · simp only [tally, ih]
        omega

/-- A book that is not open yet adds nothing, if nothing is measured on a new channel. -/
theorem channelFor_share (m : Market) (key : Key)
    (hnew : ∀ key options limit, f (.empty key options limit) = 0) :
    f (m.channelFor key) = ((m.find? key).map f).getD 0 := by
  unfold channelFor
  cases m.find? key with
  | none => exact hnew _ _ _
  | some c => rfl

theorem openBook_sum (m : Market) (key : Key) (options : Options)
    (hnew : ∀ key options limit, f (.empty key options limit) = 0) :
    (m.openBook key options).channels.sum f = m.channels.sum f := by
  have hput := m.channels.sum_put f key (.empty key options m.holdLimit)
  unfold openBook
  cases hfind : m.find? key with
  | some c => rfl
  | none =>
    rw [find?] at hfind
    simp only [hfind, hnew, Option.map_none, Option.getD_none, Nat.add_zero] at hput
    exact hput

theorem receive_sum (m : Market) (message : Message) (clock : Nat → Instant)
    (hnew : ∀ key options limit, f (.empty key options limit) = 0)
    (hstep : f ((m.channelFor message.key).receive message.payload m.pool clock).channel =
      f (m.channelFor message.key) +
        g (m.channelFor message.key) ⟨message.payload, m.pool, clock⟩) :
    (m.receive message clock).1.channels.sum f =
      m.channels.sum f + g (m.channelFor message.key) ⟨message.payload, m.pool, clock⟩ := by
  have hput := m.channels.sum_put f message.key
    ((m.channelFor message.key).receive message.payload m.pool clock).channel
  have hold := m.channelFor_share message.key hnew
  rw [find?] at hold
  simp only [receive]
  omega

/-- **What a run adds to a total**: if each message adds to what is measured on its
channel what `g` says, and nothing is measured on a new channel, the run adds the tally
of `g`. -/
theorem run_sum (h : m.Grown limit)
    (hnew : ∀ key options limit, f (.empty key options limit) = 0)
    (hstep : ∀ c : Channel, c.Legal → ∀ a, f (c.take a).channel = f c + g c a)
    (calls : List Call) :
    (m.run calls).channels.sum f = m.channels.sum f + m.tally g calls := by
  induction calls generalizing m with
  | nil => rfl
  | cons a calls ih =>
    have hrest := ih (h.serve a)
    obtain ⟨request, clock⟩ := a
    cases request with
    | openBook key options =>
      have hopen := m.openBook_sum key options hnew
      simp only [run, tally, serve] at hrest ⊢
      omega
    | receive message =>
      have hreceive := m.receive_sum message clock hnew
        (hstep _ (h.channelFor message.key).legal ⟨message.payload, m.pool, clock⟩)
      simp only [run, tally, serve] at hrest ⊢
      omega

/-- What a run adds to a count over all books of a new market. -/
theorem total_of_run {count : Stats → Nat} (hzero : count {} = 0)
    (hstep : ∀ c : Channel, c.Legal → ∀ a, count (c.take a).channel.stats = count c.stats + g c a)
    (defaults : Options) (limit : Nat) (pool : Pool) (calls : List Call) :
    ((empty defaults limit pool).run calls).total count =
      (empty defaults limit pool).tally g calls := by
  have hgrown : (empty defaults limit pool).Grown limit := grown_of_run defaults limit pool []
  rw [total_eq, run_sum hgrown (fun _ _ _ => hzero) hstep]
  exact Nat.zero_add _

end Market

end MarketDepth
