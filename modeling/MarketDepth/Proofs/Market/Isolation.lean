/-
MarketDepth/Proofs/Market/Isolation.lean

Books that do not touch each other.

All books of a market draw their nodes from one pool, so that what rests in one of
them goes on to live in another, and they are opened in an order which the calls on
all of them decide.  Still a book is what the calls about its key make of it, and
these are answered as they would be if no others had come.

Two markets are alike for a key if they have the same settings and the same book
for it; their pools may be any two.  A call about another key keeps a market like
the other one, and a call about the key which comes to both is answered alike and
leaves them alike, since nodes leave no trace.

Main result: `Market.isolated_of_run`.
-/
import MarketDepth.Proofs.Channel.Run
import MarketDepth.Proofs.Market.Run

namespace MarketDepth.Market

variable {m m' : Market} {a a' : Call} {key : Key}

/-- The two markets cannot be told apart by calls about the key. -/
structure Alike (key : Key) (m m' : Market) : Prop where
  defaults : m'.defaults = m.defaults
  holdLimit : m'.holdLimit = m.holdLimit
  find? : m'.find? key = m.find? key

namespace Alike

theorem channelFor (h : Alike key m m') : m'.channelFor key = m.channelFor key := by
  unfold Market.channelFor
  rw [h.find?, h.defaults, h.holdLimit]

/-- A call about another key does not matter. -/
theorem serve_left (h : Alike key m m') (hne : a.request.key ≠ key) :
    Alike key (m.serve a).1 m' where
  defaults := h.defaults.trans (m.serve_defaults a).symm
  holdLimit := h.holdLimit.trans (m.serve_holdLimit a).symm
  find? := h.find?.trans (serve_find?_of_ne hne.symm).symm

/-- Opening the book has the same result in both markets. -/
theorem openBook_find? (h : Alike key m m') (options : Options) :
    (m'.openBook key options).find? key = (m.openBook key options).find? key := by
  rw [find?_openBook, find?_openBook, h.find?, h.holdLimit]

theorem receive_result {message : Message} (h : Alike message.key m m')
    (clock clock' : Nat → Instant) :
    ((m'.channelFor message.key).receive message.payload m'.pool clock').result =
      ((m.channelFor message.key).receive message.payload m.pool clock).result := by
  rw [h.channelFor]
  exact Channel.receive_result_eq _ _ _ _ _ _

/-- A call that comes to both markets is answered alike, and leaves them alike. -/
theorem serve_both (h : Alike key m m') (hkey : a.request.key = key)
    (hrequest : a'.request = a.request) :
    (m'.serve a').2 = (m.serve a).2 ∧ Alike key (m.serve a).1 (m'.serve a').1 := by
  have hdefaults : (m'.serve a').1.defaults = (m.serve a).1.defaults := by
    rw [serve_defaults, serve_defaults, h.defaults]
  have hlimit : (m'.serve a').1.holdLimit = (m.serve a).1.holdLimit := by
    rw [serve_holdLimit, serve_holdLimit, h.holdLimit]
  obtain ⟨request, clock⟩ := a
  obtain ⟨request', clock'⟩ := a'
  obtain rfl : request' = request := hrequest
  cases request' with
  | openBook other options =>
    obtain rfl : other = key := hkey
    have hfind := h.openBook_find? options
    refine ⟨congrArg Answer.opened ?_, hdefaults, hlimit, hfind⟩
    unfold Market.channelFor
    rw [hfind, find?_openBook]
    rfl
  | receive message =>
    obtain rfl : message.key = key := hkey
    obtain ⟨hchannel, houtcome⟩ := Prod.mk.inj (h.receive_result clock clock')
    refine ⟨congrArg Answer.received houtcome, hdefaults, hlimit, ?_⟩
    show (m'.receive message clock').1.find? message.key =
      (m.receive message clock).1.find? message.key
    rw [find?_receive, find?_receive, hchannel]

/-- Of a run only the calls about the key matter. -/
theorem run_both (h : Alike key m m') {calls own : List Call}
    (hown : own.map (·.request) = (calls.map (·.request)).filter (·.key = key)) :
    (m.answers calls).filter (·.1 = key) = m'.answers own ∧
      Alike key (m.run calls) (m'.run own) := by
  induction calls generalizing m m' own with
  | nil =>
    obtain rfl := List.map_eq_nil_iff.mp hown
    exact ⟨rfl, h⟩
  | cons a calls ih =>
    rw [List.map_cons] at hown
    by_cases hkey : a.request.key = key
    · -- the call comes to both markets, first to each
      rw [List.filter_cons_of_pos (by simpa using hkey)] at hown
      obtain ⟨a', own, rfl, hrequest, hown⟩ := List.map_eq_cons_iff.mp hown
      obtain ⟨hanswer, hnext⟩ := h.serve_both hkey hrequest
      obtain ⟨hanswers, hend⟩ := ih hnext hown
      refine ⟨?_, hend⟩
      rw [answers, answers, List.filter_cons_of_pos (by simpa using hkey), hanswers, hanswer,
        hrequest]
    · -- the call comes to the first market only
      rw [List.filter_cons_of_neg (by simpa using hkey)] at hown
      obtain ⟨hanswers, hend⟩ := ih (h.serve_left hkey) hown
      refine ⟨?_, hend⟩
      rw [answers, List.filter_cons_of_neg (by simpa using hkey), hanswers]

end Alike

/-- **Books do not touch each other.**  Whatever calls on whatever books come to a new
market, those about one key are answered as they would be in a new market to which
no others come, and they leave the same book there.  It does not matter what the
pools of the two markets hold, nor for how long, nor when the calls come. -/
theorem isolated_of_run (defaults : Options) (limit : Nat) (pool pool' : Pool) (key : Key)
    {calls own : List Call}
    (hown : own.map (·.request) = (calls.map (·.request)).filter (·.key = key)) :
    let market := empty defaults limit pool
    let alone := empty defaults limit pool'
    (market.answers calls).filter (·.1 = key) = alone.answers own ∧
      (market.run calls).find? key = (alone.run own).find? key := by
  intro market alone
  have hnew : Alike key market alone := ⟨rfl, rfl, rfl⟩
  obtain ⟨hanswers, hend⟩ := hnew.run_both hown
  exact ⟨hanswers, hend.find?.symm⟩

/-! A second book is opened between the messages about a first one, and each draws a node
that the other one handed back. -/

open Channel (exampleKey exampleSnapshot bidDelta wholeLevel)

def otherKey : Key := ⟨"binance", ⟨"ETH", "USDT"⟩, .spot⟩

def exampleMessages : List Payload :=
  [.snapshot (exampleSnapshot none), .delta (bidDelta 11 100 0), .delta (bidDelta 12 98 4)]

/-- The first of the messages is about one book alone, the others about both. -/
def sharedRun : List Call :=
  ⟨.receive ⟨exampleKey, .snapshot (exampleSnapshot none)⟩, fun i => 5 + i⟩ ::
    ⟨.openBook otherKey { verify := true }, fun _ => 6⟩ ::
      exampleMessages.flatMap fun p =>
        [⟨.receive ⟨otherKey, p⟩, fun _ => 7⟩, ⟨.receive ⟨exampleKey, p⟩, fun _ => 8⟩]

def aloneRun : List Call :=
  (.snapshot (exampleSnapshot none) :: exampleMessages).map fun p =>
    ⟨.receive ⟨exampleKey, p⟩, fun _ => 0⟩

/-- A pool that holds what a level left behind. -/
def usedPool : Pool := (Pool.empty 1000).handBack (wholeLevel 7 7) 3

theorem isolated_of_sharedRun :
    aloneRun.map (·.request) = (sharedRun.map (·.request)).filter (·.key = exampleKey) ∧
      let market := empty {} 3 usedPool
      let alone := empty {} 3 (.empty 0)
      (market.answers sharedRun).filter (·.1 = exampleKey) = alone.answers aloneRun ∧
        (market.run sharedRun).find? exampleKey = (alone.run aloneRun).find? exampleKey := by
  have hown : aloneRun.map (·.request) =
      (sharedRun.map (·.request)).filter (·.key = exampleKey) := by decide
  exact ⟨hown, isolated_of_run {} 3 usedPool (.empty 0) exampleKey hown⟩

end MarketDepth.Market
