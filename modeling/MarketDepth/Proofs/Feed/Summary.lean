/-
MarketDepth/Proofs/Feed/Summary.lean

The summary of a replay and the counts of the books.

A replay counts the outcomes of its lines, and each book counts what happened to it.  A
lenient replay does nothing to the market but pass on the messages of its lines
(`callsOf`), so both are tallies over the same calls, and where they differ is said
message by message (`Channel.take_counts`).

Main result: `Feed.reconciled_of_replay`.
-/
import Mathlib.Control.Monad.Basic
import MarketDepth.Proofs.Channel.Counts
import MarketDepth.Proofs.Feed.Steps
import MarketDepth.Proofs.Market.Totals

namespace MarketDepth.Feed

open Text (IsBlankText)
open Text.Utf8 (decode?)
open Channel (ended lost replayed)

/-! ### The messages of a feed -/

/-- The line is a text and not blank. -/
def isFull (bytes : List UInt8) : Bool := (decode? bytes).any fun line => ¬IsBlankText line

/-- The message on a line, if there is one. -/
def message? (bytes : List UInt8) : Option Message :=
  match decode? bytes with
  | none => none
  | some line => if IsBlankText line then none else (decodeLine line).toOption

/-- The call that a line makes, if there is a message on it. -/
def callOf (clock : Nat → Instant) (bytes : List UInt8) : List Market.Call :=
  (message? bytes).toList.map fun message => ⟨.receive message, clock⟩

/-- The calls that lines make, the first of which has the number `number`. -/
def callsOf (clock : Nat → Nat → Instant) (number : Nat) : List (List UInt8) → List Market.Call
  | [] => []
  | bytes :: rest => callOf (clock number) bytes ++ callsOf clock (number + 1) rest

/-! ### What a summary counts -/

/-- How many outcomes of a kind are counted. -/
def Summary.tallied (s : Summary) : Outcome.Kind → Nat
  | .applied => s.applied
  | .held => s.held
  | .discarded => s.discarded
  | .synced => s.synced
  | .desynced => s.desyncs

/-- Each line is counted once more, by its outcome or as rejected. -/
def Summary.Balanced (s : Summary) : Prop :=
  s.lines = s.applied + s.held + s.discarded + s.synced + s.desyncs + s.rejected

theorem Summary.tallied_count (s : Summary) (outcome : Outcome) (kind : Outcome.Kind) :
    (s.count outcome).tallied kind = s.tallied kind + if outcome.kind = kind then 1 else 0 := by
  cases outcome <;> cases kind <;> rfl

theorem Summary.lines_count (s : Summary) (outcome : Outcome) :
    (s.count outcome).lines = s.lines := by
  cases outcome <;> rfl

theorem Summary.Balanced.accepted {s : Summary} (h : s.Balanced) (outcome : Outcome) :
    (s.countLine.count outcome).Balanced := by
  cases outcome <;>
    · simp only [Balanced, count, countLine] at h ⊢
      omega

theorem Summary.Balanced.rejected {s : Summary} (h : s.Balanced) :
    s.countLine.countRejected.Balanced := by
  simp only [Balanced, countRejected, countLine] at h ⊢
  omega

/-- What some lines of which `full` are not blank add to a summary when they make the calls. -/
structure Adds (m : Market) (calls : List Market.Call) (full : Nat) (s s' : Summary) : Prop where
  tallied : ∀ kind, s'.tallied kind = s.tallied kind + m.tally (ended kind) calls
  lines : s'.lines = s.lines + full
  balanced : s.Balanced → s'.Balanced

theorem Adds.trans {m : Market} {as bs : List Market.Call} {k l : Nat} {s s' s'' : Summary}
    (h : Adds m as k s s') (h' : Adds (m.run as) bs l s' s'') :
    Adds m (as ++ bs) (k + l) s s'' where
  tallied := by
    intro kind
    rw [h'.tallied, h.tallied, Market.tally_append, Nat.add_assoc]
  lines := by rw [h'.lines, h.lines, Nat.add_assoc]
  balanced := fun hs => h'.balanced (h.balanced hs)

/-! ### Replays as calls -/

variable {clock : Nat → Nat → Instant} {m m' : Market} {s s' : Summary} {bytes : List UInt8}
variable {number : Nat} {rejected : Option LineError}

/-- A line does nothing to the market but make its call, and its outcome is counted. -/
theorem Step.adds (h : Step (clock number) m s bytes m' s' rejected) :
    m' = m.run (callOf (clock number) bytes) ∧
      Adds m (callOf (clock number) bytes) (if isFull bytes then 1 else 0) s s' := by
  cases h with
  | blank decoded blank =>
    have hcall : callOf (clock number) bytes = [] := by simp [callOf, message?, decoded, blank]
    have hfull : isFull bytes = false := by simp [isFull, decoded, blank]
    rw [hcall, hfull]
    exact ⟨rfl, fun _ => rfl, rfl, fun hs => hs⟩
  | @accepted line message outcome decoded full means becomes =>
    have hcall : callOf (clock number) bytes = [⟨.receive message, clock number⟩] := by
      simp [callOf, message?, decoded, full, means, Except.toOption]
    have hfull : isFull bytes = true := by simp [isFull, decoded, full]
    rw [hcall, hfull]
    refine ⟨rfl, fun kind => ?_, s.countLine.lines_count outcome, fun hs => hs.accepted outcome⟩
    have houtcome : ((m.channelFor message.key).take
        ⟨message.payload, m.pool, clock number⟩).outcome = .ok outcome := becomes
    simp only [Summary.tallied_count, Market.tally_receive, ended, houtcome]
    rfl
  | @refused line message e decoded full means becomes =>
    have hcall : callOf (clock number) bytes = [⟨.receive message, clock number⟩] := by
      simp [callOf, message?, decoded, full, means, Except.toOption]
    have hfull : isFull bytes = true := by simp [isFull, decoded, full]
    rw [hcall, hfull]
    refine ⟨rfl, fun kind => ?_, rfl, fun hs => hs.rejected⟩
    have houtcome : ((m.channelFor message.key).take
        ⟨message.payload, m.pool, clock number⟩).outcome = .error e := becomes
    simp only [Market.tally_receive, ended, houtcome]
    cases kind <;> rfl
  | garbled decoded full means =>
    have hcall : callOf (clock number) bytes = [] := by
      simp [callOf, message?, decoded, full, means, Except.toOption]
    have hfull : isFull bytes = true := by simp [isFull, decoded, full]
    rw [hcall, hfull]
    refine ⟨rfl, fun kind => ?_, rfl, fun hs => hs.rejected⟩
    cases kind <;> rfl

/-- A lenient replay does nothing to the market but make the calls of its lines. -/
theorem lenient_adds (clock : Nat → Nat → Instant) (m : Market) (s : Summary) (number : Nat)
    {lines : List (List UInt8)} (htext : ∀ bytes ∈ lines, (decode? bytes).isSome) :
    ∃ s', replayLines false clock m s number lines =
        (m.run (callsOf clock number lines), .ok s') ∧
      Adds m (callsOf clock number lines) (lines.countP isFull) s s' := by
  induction lines generalizing m s number with
  | nil => exact ⟨s, rfl, fun _ => rfl, rfl, fun hs => hs⟩
  | cons bytes lines ih =>
    obtain ⟨hbytes, hlines⟩ := List.forall_mem_cons.mp htext
    obtain ⟨m₁, s₁, rejected, hstep⟩ := exists_step (clock number) m s hbytes
    obtain ⟨rfl, hadds⟩ := hstep.adds
    obtain ⟨s', hrun, hrest⟩ := ih (m.run (callOf (clock number) bytes)) s₁ (number + 1) hlines
    refine ⟨s', ?_, ?_⟩
    · rw [hstep.lenient_cons, hrun, callsOf, Market.run_append]
    · rw [List.countP_cons, Nat.add_comm (lines.countP isFull)]
      exact hadds.trans hrest

/-- **The summary of a replay and the counts of the books**, for a lenient replay of a feed
whose lines are texts, into a new market: the replay ends well, and each line that is not
blank is counted once more.  Over all books, as many messages were held and as many times
was a snapshot needed as the summary says.  Snapshots were loaded as often as it says that
they synced a book, and as often as one left its book in need of another.  Changes were
applied as often as it means, and as often as a snapshot had its book take changes that were
held for it, also where the book failed on some behind these. -/
theorem reconciled_of_replay (defaults : Options) (limit : Nat) (pool : Pool)
    (clock : Nat → Nat → Instant) (text : List UInt8)
    (htext : ∀ bytes ∈ splitLines [] text, (decode? bytes).isSome) :
    let new := Market.empty defaults limit pool
    let calls := callsOf clock 1 (splitLines [] text)
    let m := new.run calls
    ∃ s, replay false clock new text = (m, .ok s) ∧
      s.lines = s.applied + s.held + s.discarded + s.synced + s.desyncs + s.rejected ∧
      s.lines = (splitLines [] text).countP isFull ∧
      m.total (·.held) = s.held ∧
      m.total (·.desyncs) = s.desyncs ∧
      m.total (·.snapshots) = s.synced + new.tally lost calls ∧
      m.total (·.applied) = s.applied + new.tally replayed calls := by
  intro new calls m
  obtain ⟨s, hrun, hadds⟩ := lenient_adds clock new {} 1 htext
  have htallied : ∀ kind, s.tallied kind = new.tally (ended kind) calls := by
    intro kind
    rw [hadds.tallied]
    cases kind <;> exact Nat.zero_add _
  refine ⟨s, hrun, hadds.balanced rfl, hadds.lines.trans (Nat.zero_add _), ?_, ?_, ?_, ?_⟩
  · rw [Market.total_of_run rfl fun c h a => (c.take_counts h a).held]
    exact (htallied .held).symm
  · rw [Market.total_of_run rfl fun c h a => (c.take_counts h a).desyncs]
    exact (htallied .desynced).symm
  · rw [Market.total_of_run rfl fun c h a => (c.take_counts h a).snapshots, Market.tally_add]
    exact congrArg (· + _) (htallied .synced).symm
  · rw [Market.total_of_run rfl fun c h a => (c.take_counts h a).applied, Market.tally_add]
    exact congrArg (· + _) (htallied .applied).symm

/-! A message that is held, a blank line, a snapshot that is loaded and has the wrong
checksum, and a line without a message. -/

def feedLine (words : String) : String :=
  "\x7b\"exchange\":\"binance\",\"pair\":\"BTC-USDT\"," ++ words ++ "\x7d\n"

def mismatchedFeed : List UInt8 :=
  Text.Utf8.encode (feedLine "\"type\":\"update\",\"update_id\":3") ++ [10] ++
    Text.Utf8.encode (feedLine "\"type\":\"snapshot\",\"update_id\":2,\"checksum\":7") ++
    Text.Utf8.encode "x"

theorem replay_mismatchedFeed :
    let r := replay false (fun _ _ => 0) (.empty { verify := true } 3 (.empty 0)) mismatchedFeed
    (r.2, r.1.total (·.snapshots)) =
      (.ok { lines := 3, held := 1, desyncs := 1, rejected := 1 }, 1) := by
  decide +kernel

theorem reconciled_of_mismatchedFeed :
    let new := Market.empty { verify := true } 3 (.empty 0)
    let calls := callsOf (fun _ _ => 0) 1 (splitLines [] mismatchedFeed)
    ∃ s, replay false (fun _ _ => 0) new mismatchedFeed = (new.run calls, .ok s) ∧
      s = { lines := 3, held := 1, desyncs := 1, rejected := 1 } ∧
      (new.run calls).total (·.snapshots) = 1 ∧ new.tally lost calls = 1 := by
  intro new calls
  have htext : ∀ bytes ∈ splitLines [] mismatchedFeed, (decode? bytes).isSome := by
    decide +kernel
  obtain ⟨s, hrun, -, -, -, -, hsnapshots, -⟩ :=
    reconciled_of_replay { verify := true } 3 (.empty 0) (fun _ _ => 0) mismatchedFeed htext
  obtain ⟨hsummary, htotal⟩ := Prod.mk.inj replay_mismatchedFeed
  rw [hrun] at hsummary htotal
  have hs := Except.ok.inj hsummary
  have hsynced : s.synced = 0 := by rw [hs]
  rw [hsynced, Nat.zero_add] at hsnapshots
  exact ⟨s, hrun, hs, htotal, hsnapshots.symm.trans htotal⟩

end MarketDepth.Feed
