/-
MarketDepth/Proofs/Channel/Healing.lean

A snapshot heals completely.

Two channels are alike (`Channel.Alike`) if they differ in nothing but their
counts.  No message looks at a count, so what is alike stays alike, and a message
becomes the same on both (`Channel.Alike.take`); whoever watches them cannot tell
one from the other (`Channel.Alike.watch_eq`).

What is left of a channel's history, apart from its counts, is its book, its phase
and what it holds.  A snapshot that the book takes replaces the first two, and if
nothing is held there is nothing else: channels of the same key, options and limit
become alike, wherever they come from (`Channel.alike_of_load`).

Main result: `Channel.watch_eq_of_heal`.
-/
import MarketDepth.Proofs.Channel.Follow

namespace MarketDepth

namespace Channel

variable {c c' : Channel} {b : Book} {s : Snapshot} {a a' : Arrival} {as as' : List Arrival}

/-! ### Watching a channel -/

/-- What can be seen of a message and of the channel after it: what became of the
message, the phase, and what a reader of the book gets. -/
structure Seen where
  outcome : Except BookError Outcome
  phase : Phase
  view : Except BookError View

def Step.seen (s : Step) : Seen := ⟨s.outcome, s.channel.phase, s.channel.view⟩

/-- What is seen of messages that come in one after the other. -/
def watch (c : Channel) : List Arrival → List Seen
  | [] => []
  | a :: as => (c.take a).seen :: (c.take a).channel.watch as

/-! ### Channels that are alike -/

/-- The channels differ at most in what they have counted. -/
def Alike (c c' : Channel) : Prop := ∃ stats meters, c' = { c with stats, meters }

/-- The channels are alike after a message, of which the same became on both. -/
def Step.Alike (s s' : Step) : Prop := s.channel.Alike s'.channel ∧ s.outcome = s'.outcome

theorem alike_of_eq (hbook : c.book = c'.book) (hphase : c.phase = c'.phase)
    (hheld : c.held = c'.held) (hlimit : c.holdLimit = c'.holdLimit) : c.Alike c' := by
  refine ⟨c'.stats, c'.meters, ?_⟩
  rw [hbook, hphase, hheld, hlimit]

theorem Step.Alike.of_result {s s' t' : Step} (h : s.Alike s') (heq : s'.result = t'.result) :
    s.Alike t' := by
  obtain ⟨hchannel, houtcome⟩ : s'.channel = t'.channel ∧ s'.outcome = t'.outcome :=
    Prod.mk.inj heq
  rwa [Step.Alike, ← hchannel, ← houtcome]

/-- Steps that are alike look the same. -/
theorem Step.Alike.seen_eq {s s' : Step} (h : s.Alike s') : s.seen = s'.seen := by
  obtain ⟨⟨stats, meters, hchannel⟩, houtcome⟩ := h
  rw [seen, seen, houtcome, hchannel]
  rfl

namespace Alike

variable {pool : Pool} {clock : Nat → Instant}

theorem answerError (h : c.Alike c') (e : BookError) :
    (c.answerError pool e).Alike (c'.answerError pool e) := by
  obtain ⟨stats, meters, rfl⟩ := h
  unfold Channel.answerError
  cases Desync.ofError? e with
  | none => exact ⟨⟨_, _, rfl⟩, rfl⟩
  | some reason => exact ⟨⟨_, _, rfl⟩, rfl⟩

theorem replayHeld (h : c.Alike c') (id : Int) (replayed stale : Nat) (ds : List Delta) :
    (c.replayHeld id pool clock replayed stale ds).Alike
      (c'.replayHeld id pool clock replayed stale ds) := by
  induction ds generalizing c c' pool replayed stale with
  | nil =>
    obtain ⟨stats, meters, rfl⟩ := h
    exact ⟨⟨_, _, rfl⟩, rfl⟩
  | cons d rest ih =>
    unfold Channel.replayHeld
    split
    · exact ih h replayed (stale + 1)
    · obtain ⟨stats, meters, rfl⟩ := h
      dsimp only
      split
      · exact ih ⟨_, _, rfl⟩ (replayed + 1) stale
      · exact answerError ⟨_, _, rfl⟩ _

theorem receiveSnapshot (h : c.Alike c') (s : Snapshot) :
    (c.receiveSnapshot s pool clock).Alike (c'.receiveSnapshot s pool clock) := by
  obtain ⟨stats, meters, rfl⟩ := h
  unfold Channel.receiveSnapshot
  dsimp only
  split
  · exact ⟨⟨_, _, rfl⟩, rfl⟩
  · split
    · exact answerError ⟨_, _, rfl⟩ _
    · exact replayHeld ⟨_, _, rfl⟩ _ _ _ _

theorem hold (h : c.Alike c') (d : Delta) : (c.hold d pool).Alike (c'.hold d pool) := by
  obtain ⟨stats, meters, rfl⟩ := h
  unfold Channel.hold
  cases checkChanges d.changes with
  | error e => exact ⟨⟨_, _, rfl⟩, rfl⟩
  | ok u =>
    dsimp only
    split
    · exact answerError ⟨_, _, rfl⟩ _
    · exact ⟨⟨_, _, rfl⟩, rfl⟩

theorem applyLive (h : c.Alike c') (d : Delta) (now : Instant) :
    (c.applyLive d pool now).Alike (c'.applyLive d pool now) := by
  obtain ⟨stats, meters, rfl⟩ := h
  unfold Channel.applyLive
  dsimp only
  split
  · exact ⟨⟨_, _, rfl⟩, rfl⟩
  · exact answerError ⟨_, _, rfl⟩ _

theorem receiveDelta (h : c.Alike c') (d : Delta) :
    (c.receiveDelta d pool clock).Alike (c'.receiveDelta d pool clock) := by
  have hphase : c'.phase = c.phase := by
    obtain ⟨stats, meters, rfl⟩ := h
    rfl
  unfold Channel.receiveDelta
  rw [hphase]
  cases c.phase with
  | unsynced => exact h.hold d
  | holding => exact h.hold d
  | synced => exact h.applyLive d (clock 0)
  | awaiting =>
    obtain ⟨stats, meters, rfl⟩ := h
    exact ⟨⟨_, _, rfl⟩, rfl⟩

/-- A message does the same to channels that are alike, whatever pools it meets. -/
theorem take (h : c.Alike c') (hpayload : a.payload = a'.payload) :
    (c.take a).Alike (c'.take a') := by
  refine Step.Alike.of_result ?_ (take_result_eq hpayload)
  obtain ⟨payload, pool, clock⟩ := a
  cases payload with
  | snapshot s => exact h.receiveSnapshot s
  | delta d => exact h.receiveDelta d

/-- Channels that are alike look the same, as long as they get the same messages. -/
theorem watch_eq (h : c.Alike c') (has : as.map (·.payload) = as'.map (·.payload)) :
    c.watch as = c'.watch as' := by
  induction as generalizing c c' as' with
  | nil =>
    obtain rfl := List.map_eq_nil_iff.mp has.symm
    rfl
  | cons a as ih =>
    obtain ⟨a', as', rfl, ha, hrest⟩ := List.map_eq_cons_iff.mp has.symm
    have hstep := h.take ha.symm
    rw [watch, watch, hstep.seen_eq, ih hstep.1 hrest.symm]

end Alike

/-! ### Healing -/

/-- A snapshot that makes the same book of two channels leaves them alike, if
neither holds anything. -/
theorem alike_of_load (hload : c.book.load s = .ok b) (hload' : c'.book.load s = .ok b)
    (hheld : c.held = []) (hheld' : c'.held = []) (hlimit : c.holdLimit = c'.holdLimit)
    (ha : a.payload = .snapshot s) (ha' : a'.payload = .snapshot s) :
    (c.take a).Alike (c'.take a') := by
  have horder : c.heldInOrder = [] := by rw [heldInOrder, hheld, List.mergeSort_nil]
  have horder' : c'.heldInOrder = [] := by rw [heldInOrder, hheld', List.mergeSort_nil]
  obtain ⟨p, hrestore⟩ := Book.restore_of_load hload a.pool (a.clock 0)
  obtain ⟨p', hrestore'⟩ := Book.restore_of_load hload' a'.pool (a'.clock 0)
  rw [take, take, ha, ha']
  simp only [receive, receiveSnapshot, hrestore, hrestore', horder, horder']
  -- the phases still differ here; each of the two ways to end sets them
  split
  · next e hsum =>
    obtain ⟨expected, -, hwrong⟩ := Option.map_eq_some_iff.mp hsum
    obtain rfl := Book.compareChecksum_error hwrong
    exact ⟨alike_of_eq rfl rfl rfl hlimit, rfl⟩
  · exact ⟨alike_of_eq rfl rfl rfl hlimit, rfl⟩

/-- **A snapshot heals completely**: take two channels of the same key, options and
limit after any two runs, with nothing held for a snapshot.  Once both get a snapshot
that one of them takes, nobody can tell them apart: whatever messages follow, as long
as both get the same, what becomes of each message, the phase after it and the book
that a reader gets are the same, whether the snapshot's checksum is right or wrong and
whichever pools the messages meet. -/
theorem watch_eq_of_heal (key : Key) (options : Options) (limit : Nat) (pool : Pool)
    (now : Instant) {payloads : List Payload} {bs bs' : List Arrival}
    (hheld : ((empty key options limit).run as).held = [])
    (hheld' : ((empty key options limit).run as').held = [])
    (haccepted : (((empty key options limit).run as).book.restore
      s.bids s.asks s.id pool now).isOk)
    (hbs : bs.map (·.payload) = .snapshot s :: payloads)
    (hbs' : bs'.map (·.payload) = .snapshot s :: payloads) :
    ((empty key options limit).run as).watch bs =
      ((empty key options limit).run as').watch bs' := by
  have hempty := legal_empty key options limit
  obtain ⟨b, hload⟩ := Book.load_of_restore haccepted
  have hkin := Book.load_eq_of_kin (s := s) (run_empty_kin key options limit as)
  have hkin' := Book.load_eq_of_kin (s := s) (run_empty_kin key options limit as')
  have hlimit := (run_holdLimit hempty as).trans (run_holdLimit hempty as').symm
  obtain ⟨a, bs, rfl, ha, hrest⟩ := List.map_eq_cons_iff.mp hbs
  obtain ⟨a', bs', rfl, ha', hrest'⟩ := List.map_eq_cons_iff.mp hbs'
  have hstep := alike_of_load hload (hkin'.trans (hkin.symm.trans hload)) hheld hheld' hlimit
    ha ha'
  rw [watch, watch, hstep.seen_eq, hstep.1.watch_eq (hrest.trans hrest'.symm)]

/-! A book that lost its step, and one on which nothing has come yet. -/

def lostRun : List Arrival :=
  [.alone (.snapshot ⟨5, [wholeLevel 90 7], [wholeLevel 91 7], none⟩),
    .alone (.delta (bidDelta 9 92 1))]

def healingMessages : List Payload :=
  [.snapshot (exampleSnapshot none), .delta (bidDelta 11 99 5), .delta (bidDelta 11 98 4)]

theorem watch_eq_of_lostRun :
    let new := empty exampleKey { verify := true } 4
    (new.run lostRun).phase = .awaiting ∧
      (new.run lostRun).watch (healingMessages.map .alone) =
        (new.run []).watch (healingMessages.map .alone) :=
  ⟨by decide +kernel,
    watch_eq_of_heal exampleKey { verify := true } 4 (.empty 0) 0 (by decide +kernel) rfl
      (by decide +kernel) rfl rfl⟩

end Channel

end MarketDepth
