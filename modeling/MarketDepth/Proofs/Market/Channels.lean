/-
MarketDepth/Proofs/Market/Channels.lean

The channels of a market.

A channel of a market is opened new, and from then on it is only ever replaced by
what a message has made of it.  So each one has come about by a run of its own, and
what is shown of all runs of a channel holds of every channel of a market.

Main results: `Market.channel_of_run`, and `Market.sound_of_run`, that the books of
a market are in strict order, with positive levels.
-/
import MarketDepth.Proofs.Channel.Calls
import MarketDepth.Proofs.Market.Run

namespace MarketDepth

/-- The channel has come about by a run of a new channel for the key. -/
def Channel.Grown (key : Key) (limit : Nat) (c : Channel) : Prop :=
  ∃ options as, c = (Channel.empty key options limit).run as

namespace Channel.Grown

variable {c : Channel} {key : Key} {limit : Nat}

theorem new (key : Key) (options : Options) (limit : Nat) :
    (empty key options limit).Grown key limit := ⟨options, [], rfl⟩

theorem receive (h : c.Grown key limit) (p : Payload) (pool : Pool) (clock : Nat → Instant) :
    (c.receive p pool clock).channel.Grown key limit := by
  obtain ⟨options, as, rfl⟩ := h
  refine ⟨options, as ++ [⟨p, pool, clock⟩], ?_⟩
  rw [run_concat]
  rfl

theorem legal (h : c.Grown key limit) : c.Legal := by
  obtain ⟨options, as, rfl⟩ := h
  exact run_legal (legal_empty key options limit) as

theorem sound (h : c.Grown key limit) : c.book.EachSide Book.SoundOn := by
  obtain ⟨options, as, rfl⟩ := h
  exact sound_of_run key options limit as

end Channel.Grown

namespace Market

variable {m : Market} {key : Key} {limit : Nat} {c : Channel}

/-- All channels that are open have come about by runs of their own. -/
structure Grown (m : Market) (limit : Nat) : Prop where
  holdLimit : m.holdLimit = limit
  channels : ∀ key c, m.find? key = some c → c.Grown key limit

namespace Grown

theorem channelFor (h : m.Grown limit) (key : Key) : (m.channelFor key).Grown key limit := by
  unfold Market.channelFor
  cases hfind : m.find? key with
  | some c => exact h.channels key c hfind
  | none =>
    rw [h.holdLimit]
    exact .new key m.defaults limit

theorem serve (h : m.Grown limit) (a : Call) : (m.serve a).1.Grown limit where
  holdLimit := (m.serve_holdLimit a).trans h.holdLimit
  channels := by
    intro key c hfind
    by_cases hkey : key = a.request.key
    · subst hkey
      obtain ⟨request, clock⟩ := a
      cases request with
      | openBook key options =>
        have hopen : some ((m.find? key).getD (.empty key options m.holdLimit)) = some c :=
          (find?_openBook m key options).symm.trans hfind
        obtain rfl := Option.some.inj hopen
        cases hold : m.find? key with
        | some c => exact h.channels key c hold
        | none =>
          rw [h.holdLimit]
          exact .new key options limit
      | receive message =>
        have hreceive := (find?_receive m message clock).symm.trans hfind
        obtain rfl := Option.some.inj hreceive
        exact (h.channelFor message.key).receive _ _ _
    · rw [serve_find?_of_ne hkey] at hfind
      exact h.channels key c hfind

theorem run (h : m.Grown limit) (calls : List Call) : (m.run calls).Grown limit := by
  induction calls generalizing m with
  | nil => exact h
  | cons a calls ih => exact ih (h.serve a)

end Grown

theorem grown_of_run (defaults : Options) (limit : Nat) (pool : Pool) (calls : List Call) :
    ((empty defaults limit pool).run calls).Grown limit := by
  have hnew : (empty defaults limit pool).Grown limit := by
    refine ⟨rfl, ?_⟩
    intro key c hfind
    cases hfind
  exact hnew.run calls

/-- Every channel of a market is what a run of its own makes of a new one. -/
theorem channel_of_run (defaults : Options) (limit : Nat) (pool : Pool) (calls : List Call)
    (hfind : ((empty defaults limit pool).run calls).find? key = some c) :
    ∃ options as, c = (Channel.empty key options limit).run as :=
  (grown_of_run defaults limit pool calls).channels key c hfind

/-- The books of a market are in order, with positive levels. -/
theorem sound_of_run (defaults : Options) (limit : Nat) (pool : Pool) (calls : List Call)
    (hfind : ((empty defaults limit pool).run calls).find? key = some c) :
    c.book.EachSide Book.SoundOn :=
  ((grown_of_run defaults limit pool calls).channels key c hfind).sound

end Market

end MarketDepth
