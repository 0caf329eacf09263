/-
MarketDepth/Proofs/Feed/Modes.lean

The two modes of a replay.

Both modes do the same with a line that is not rejected.  So they agree up to the first
line that a lenient replay rejects: a strict replay stops there, with the number of the
line in the text and the error of the line, and leaves the market as the lenient one has
it behind this line.  From there on only the lenient replay goes on.  If no line is
rejected, nothing tells the two apart.

Main result: `Feed.strict_of_lenient`.
-/
import Mathlib.Control.Monad.Basic
import MarketDepth.Proofs.Feed.Lines
import MarketDepth.Proofs.Feed.Steps

namespace MarketDepth.Feed

open Text (IsBlankText)
open Text.Utf8 (decode?)

/-! ### The first rejection -/

/-- Either no line is rejected, and it does not matter in which mode the lines are
replayed, or there is a first that is, and it does not matter for those before it. -/
theorem accepted_or_rejected (clock : Nat → Nat → Instant) (m : Market) (s : Summary)
    (number : Nat) {lines : List (List UInt8)}
    (htext : ∀ bytes ∈ lines, (decode? bytes).isSome) :
    (∃ m' s', s'.rejected = s.rejected ∧
      ∀ strict, replayLines strict clock m s number lines = (m', .ok s')) ∨
    ∃ before bytes after m₁ s₁ m₂ s₂ e, lines = before ++ bytes :: after ∧
      s₁.rejected = s.rejected ∧
      (∀ strict, replayLines strict clock m s number before = (m₁, .ok s₁)) ∧
      Step (clock (number + before.length)) m₁ s₁ bytes m₂ s₂ (some e) := by
  induction lines generalizing m s number with
  | nil => exact .inl ⟨m, s, rfl, fun _ => rfl⟩
  | cons bytes lines ih =>
    obtain ⟨hbytes, hlines⟩ := List.forall_mem_cons.mp htext
    obtain ⟨m₁, s₁, rejected, hstep⟩ := exists_step (clock number) m s hbytes
    cases rejected with
    | some e => exact .inr ⟨[], bytes, lines, m, s, m₁, s₁, e, rfl, rfl, fun _ => rfl, hstep⟩
    | none =>
      have hcount : s₁.rejected = s.rejected := hstep.rejected_eq
      obtain ⟨m', s', heq, hrun⟩ |
          ⟨before, bad, after, m₂, s₂, m₃, s₃, e, hlines, heq, hrun, hbad⟩ :=
        ih m₁ s₁ (number + 1) hlines
      · exact .inl ⟨m', s', heq.trans hcount,
          fun strict => (hstep.replayLines_cons strict lines).trans (hrun strict)⟩
      · refine .inr ⟨bytes :: before, bad, after, m₂, s₂, m₃, s₃, e, by rw [hlines]; rfl,
          heq.trans hcount,
          fun strict => (hstep.replayLines_cons strict before).trans (hrun strict), ?_⟩
        have hnumber : number + (bytes :: before).length = number + 1 + before.length := by
          rw [List.length_cons]
          omega
        rwa [hnumber]

/-- A line of a text that is rejected. -/
structure Rejection where
  /-- The text before the line. -/
  pre : List UInt8
  /-- The line, with what ends it. -/
  raw : List UInt8
  /-- The text behind the line. -/
  post : List UInt8
  /-- The market that the line meets. -/
  before : Market
  /-- The market that it leaves. -/
  after : Market
  error : LineError

/-- The number of the line in the text, which counts the blank lines as well. -/
def Rejection.number (r : Rejection) : Nat := r.pre.count 10 + 1

/-- Of the lines of `text`, the first that a lenient replay rejects when it starts with
the market `m`. -/
structure FirstRejected (clock : Nat → Nat → Instant) (m : Market) (text : List UInt8)
    (r : Rejection) : Prop where
  /-- It is a line of the text, which is not blank, and its market answers it with the error. -/
  refused : ∃ bytes line, LineAt text r.pre r.raw r.post bytes ∧ decode? bytes = some line ∧
    ¬IsBlankText line ∧ receiveLine r.before line (clock r.number) = (r.after, .error r.error)
  /-- Up to the line, nothing is rejected. -/
  accepted : ∃ s, replay false clock m r.pre = (r.before, .ok s) ∧ s.rejected = 0
  /-- Up to and including the line, one line is, and the rest follows from there. -/
  lenient : ∃ s, replay false clock m (r.pre ++ r.raw) = (r.after, .ok s) ∧ s.rejected = 1 ∧
    replay false clock m text =
      replayLines false clock r.after s (r.number + 1) (splitLines [] r.post)

/-! ### The two modes -/

/-- **The two modes of a replay**, of a feed whose lines are texts, with any market to
start with: the lenient replay gets to the end.  If it rejects no line, the strict one
ends in the same market with the same summary.  Otherwise there is a first line that the
lenient one rejects; the strict one stops with the number of this line and its error, and
in the market that the lenient one has behind it. -/
theorem strict_of_lenient (clock : Nat → Nat → Instant) (m : Market) (text : List UInt8)
    (htext : ∀ bytes ∈ splitLines [] text, (decode? bytes).isSome) :
    ∃ m' s, replay false clock m text = (m', .ok s) ∧
      (s.rejected = 0 → replay true clock m text = (m', .ok s)) ∧
      (s.rejected ≠ 0 → ∃ r, FirstRejected clock m text r ∧
        replay true clock m text = (r.after, .error (.line r.number r.error))) := by
  obtain ⟨m', s, hnone, hrun⟩ |
      ⟨before, bytes, rest, m₁, s₁, m₂, s₂, e, hlines, hnone, hrun, hbad⟩ :=
    accepted_or_rejected clock m {} 1 htext
  · have hzero : s.rejected = 0 := hnone
    exact ⟨m', s, hrun false, fun _ => hrun true, fun h => absurd hzero h⟩
  · obtain ⟨pre, raw, post, hat, rfl, rfl⟩ := exists_lineAt hlines
    have hzero : s₁.rejected = 0 := hnone
    have hone : s₂.rejected = 1 := by
      rw [hbad.rejected_eq, hzero]
      rfl
    -- the line has the number that the market was asked with
    rw [hat.whole.length_splitLines, Nat.add_comm] at hbad
    have hgoes : replay false clock m text =
        replayLines false clock m₂ s₂ (pre.count 10 + 1 + 1) (splitLines [] post) := by
      rw [replay, hlines, replayLines_append (hrun false), hat.whole.length_splitLines,
        Nat.add_comm 1, hbad.lenient_cons]
    have hstops : replay true clock m text = (m₂, .error (.line (pre.count 10 + 1) e)) := by
      rw [replay, hlines, replayLines_append (hrun true), hat.whole.length_splitLines,
        Nat.add_comm 1, hbad.strict_cons]
    have hupto : replay false clock m (pre ++ raw) = (m₂, .ok s₂) := by
      rw [replay, hat.splitLines_upto, replayLines_append (hrun false),
        hat.whole.length_splitLines, Nat.add_comm 1, hbad.lenient_cons]
      rfl
    have hrest : ∀ bytes ∈ splitLines [] post, (decode? bytes).isSome := by
      intro bytes hin
      exact htext bytes (by rw [hlines]; simp [hin])
    obtain ⟨m', s, hend, hle⟩ := lenient_ok clock m₂ s₂ (pre.count 10 + 1 + 1) hrest
    refine ⟨m', s, hgoes.trans hend, fun h => by omega, fun _ => ?_⟩
    obtain ⟨line, hdecoded, hfull, hreceive⟩ := hbad.receiveLine_eq
    exact ⟨⟨pre, raw, post, m₁, m₂, e⟩,
      ⟨⟨bytes, line, hat, hdecoded, hfull, hreceive⟩, ⟨s₁, hrun false, hzero⟩,
        ⟨s₂, hupto, hone, hgoes⟩⟩, hstops⟩

/-! A feed of an empty line, a blank one, a snapshot without a price, and a line that is
no message and has no end.  The book of the snapshot is opened before it is refused. -/

def unpricedLine : String :=
  "\x7b\"exchange\":\"binance\",\"pair\":\"BTC-USDT\",\"type\":\"snapshot\",\"update_id\":2," ++
    "\"bids\":[\x7b\"price\":\"0\",\"amount\":\"1\"\x7d]\x7d"

def unpricedFeed : List UInt8 :=
  Text.Utf8.encode "\n \r\n" ++ (Text.Utf8.encode (unpricedLine ++ "\r\n") ++ Text.Utf8.encode "x")

def verifiedMarket : Market := .empty { verify := true } 3 (.empty 0)

theorem strict_of_unpricedFeed :
    ∃ r, FirstRejected (fun _ _ => 0) verifiedMarket unpricedFeed r ∧
      r.number = 3 ∧
      r.error = .book (.invalidSnapshot (SnapshotFault.price .bid 0 .zero).message) ∧
      r.after.size = 1 ∧
      replay true (fun _ _ => 0) verifiedMarket unpricedFeed =
        (r.after, .error (.line r.number r.error)) := by
  have htext : ∀ bytes ∈ splitLines [] unpricedFeed, (decode? bytes).isSome := by decide +kernel
  have htwo : (replay false (fun _ _ => 0) verifiedMarket unpricedFeed).2.map (·.rejected)
      = .ok 2 := by
    decide +kernel
  have hstop : (replay true (fun _ _ => 0) verifiedMarket unpricedFeed).2 =
      .error (.line 3 (.book (.invalidSnapshot (SnapshotFault.price .bid 0 .zero).message))) := by
    decide +kernel
  have hopen : (replay true (fun _ _ => 0) verifiedMarket unpricedFeed).1.size = 1 := by
    decide +kernel
  obtain ⟨m', s, hlenient, -, hrejects⟩ :=
    strict_of_lenient (fun _ _ => 0) verifiedMarket unpricedFeed htext
  have hne : s.rejected ≠ 0 := by
    rw [hlenient] at htwo
    have htwo : s.rejected = 2 := Except.ok.inj htwo
    omega
  obtain ⟨r, hfirst, hstrict⟩ := hrejects hne
  rw [hstrict] at hstop hopen
  obtain ⟨hnumber, herror⟩ := Stop.line.inj (Except.error.inj hstop)
  exact ⟨r, hfirst, hnumber, herror, hopen, hstrict⟩

end MarketDepth.Feed
