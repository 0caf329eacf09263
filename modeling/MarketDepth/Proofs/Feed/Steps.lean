/-
MarketDepth/Proofs/Feed/Steps.lean

What one line of a feed does.

`Step clock m s bytes m' s' rejected` has one rule for each way in which a line ends: it
is blank, or its message becomes something, or its book refuses the message, or there is
no message on it.  The last two are the rejections, and only on these the two modes of a
replay part: whatever a rejected line has left behind, a lenient replay goes on from
there, and a strict one stops there.

A line that is no text has no step, as it stops a replay in either mode.

Main results: `Feed.exists_step`, that there is no other way, and `Feed.replayLines_append`.
-/
import Mathlib.Control.Monad.Basic
import MarketDepth.Feed.Replay

namespace MarketDepth.Feed

open Text (IsBlankText)
open Text.Utf8 (decode?)

/-- What one line does to a market and a summary, and the error with which it is rejected
if it is. -/
inductive Step (clock : Nat → Instant) (m : Market) (s : Summary) (bytes : List UInt8) :
    Market → Summary → Option LineError → Prop
  /-- A blank line does nothing. -/
  | blank {line : String} (decoded : decode? bytes = some line) (blank : IsBlankText line) :
    Step clock m s bytes m s none
  /-- A message of which something becomes. -/
  | accepted {line : String} {message : Message} {outcome : Outcome}
      (decoded : decode? bytes = some line) (full : ¬IsBlankText line)
      (means : decodeLine line = .ok message)
      (becomes : (m.receive message clock).2 = .ok outcome) :
    Step clock m s bytes (m.receive message clock).1 (s.countLine.count outcome) none
  /-- A message that its book refuses.  The book may have been opened for it. -/
  | refused {line : String} {message : Message} {e : BookError}
      (decoded : decode? bytes = some line) (full : ¬IsBlankText line)
      (means : decodeLine line = .ok message) (becomes : (m.receive message clock).2 = .error e) :
    Step clock m s bytes (m.receive message clock).1 s.countLine.countRejected (some (.book e))
  /-- A line without a message. -/
  | garbled {line : String} {e : LineError} (decoded : decode? bytes = some line)
      (full : ¬IsBlankText line) (means : decodeLine line = .error e) :
    Step clock m s bytes m s.countLine.countRejected (some e)

variable {clock : Nat → Nat → Instant} {m m' : Market} {s s' : Summary} {bytes : List UInt8}
variable {number : Nat} {e : LineError} {rejected : Option LineError}

/-- A line that is a text ends in one of the four ways. -/
theorem exists_step (clock : Nat → Instant) (m : Market) (s : Summary)
    (htext : (decode? bytes).isSome) : ∃ m' s' rejected, Step clock m s bytes m' s' rejected := by
  obtain ⟨line, decoded⟩ := Option.isSome_iff_exists.mp htext
  by_cases hblank : IsBlankText line
  · exact ⟨_, _, _, .blank decoded hblank⟩
  · cases means : decodeLine line with
    | error e => exact ⟨_, _, _, .garbled decoded hblank means⟩
    | ok message =>
      cases becomes : (m.receive message clock).2 with
      | error e => exact ⟨_, _, _, .refused decoded hblank means becomes⟩
      | ok outcome => exact ⟨_, _, _, .accepted decoded hblank means becomes⟩

namespace Step

/-! ### What is counted -/

theorem rejected_eq (h : Step (clock number) m s bytes m' s' rejected) :
    s'.rejected = s.rejected + rejected.toList.length := by
  cases h with
  | blank => rfl
  | accepted =>
    rename_i outcome _ _ _ _
    cases outcome <;> rfl
  | refused => rfl
  | garbled => rfl

/-- Where a rejection comes from. -/
theorem receiveLine_eq (h : Step (clock number) m s bytes m' s' (some e)) :
    ∃ line, decode? bytes = some line ∧ ¬IsBlankText line ∧
      receiveLine m line (clock number) = (m', .error e) := by
  cases h with
  | refused decoded full means becomes =>
    refine ⟨_, decoded, full, ?_⟩
    simp only [receiveLine, means, becomes, Except.mapError]
  | garbled decoded full means =>
    refine ⟨_, decoded, full, ?_⟩
    simp only [receiveLine, means]

/-! ### How a replay goes on -/

/-- Either mode goes on behind a line that is not rejected. -/
theorem replayLines_cons (h : Step (clock number) m s bytes m' s' none) (strict : Bool)
    (rest : List (List UInt8)) :
    replayLines strict clock m s number (bytes :: rest) =
      replayLines strict clock m' s' (number + 1) rest := by
  cases h with
  | blank decoded blank => simp only [replayLines, decoded, if_pos blank]
  | accepted decoded full means becomes =>
    simp only [replayLines, decoded, if_neg full, receiveLine, means, becomes, Except.mapError]

/-- A lenient replay goes on behind any line. -/
theorem lenient_cons (h : Step (clock number) m s bytes m' s' rejected)
    (rest : List (List UInt8)) :
    replayLines false clock m s number (bytes :: rest) =
      replayLines false clock m' s' (number + 1) rest := by
  cases rejected with
  | none => exact h.replayLines_cons false rest
  | some e =>
    cases h with
    | refused decoded full means becomes =>
      simp only [replayLines, decoded, if_neg full, receiveLine, means, becomes, Except.mapError,
        Bool.false_eq_true, if_false]
    | garbled decoded full means =>
      simp only [replayLines, decoded, if_neg full, receiveLine, means, Bool.false_eq_true,
        if_false]

/-- A strict replay stops at a line that is rejected. -/
theorem strict_cons (h : Step (clock number) m s bytes m' s' (some e))
    (rest : List (List UInt8)) :
    replayLines true clock m s number (bytes :: rest) = (m', .error (.line number e)) := by
  cases h with
  | refused decoded full means becomes =>
    simp only [replayLines, decoded, if_neg full, receiveLine, means, becomes, Except.mapError,
      if_true]
  | garbled decoded full means =>
    simp only [replayLines, decoded, if_neg full, receiveLine, means, if_true]

end Step

/-! ### Lines after lines -/

/-- A replay that gets to the end of some lines goes on from there. -/
theorem replayLines_append {strict : Bool} {before : List (List UInt8)}
    (h : replayLines strict clock m s number before = (m', .ok s'))
    (after : List (List UInt8)) :
    replayLines strict clock m s number (before ++ after) =
      replayLines strict clock m' s' (number + before.length) after := by
  induction before generalizing m s number with
  | nil =>
    obtain ⟨rfl, hs⟩ := Prod.mk.inj h
    obtain rfl := Except.ok.inj hs
    rfl
  | cons bytes before ih =>
    have htext : (decode? bytes).isSome := by
      rw [Option.isSome_iff_ne_none]
      intro hnone
      simp [replayLines, hnone] at h
    obtain ⟨m₁, s₁, rejected, hstep⟩ := exists_step (clock number) m s htext
    have hnumber : number + (bytes :: before).length = number + 1 + before.length := by
      rw [List.length_cons]
      omega
    rw [List.cons_append, hnumber]
    cases rejected with
    | none =>
      rw [hstep.replayLines_cons] at h ⊢
      exact ih h
    | some e =>
      cases strict with
      | true =>
        rw [hstep.strict_cons] at h
        cases (Prod.mk.inj h).2
      | false =>
        rw [hstep.lenient_cons] at h ⊢
        exact ih h

/-- A lenient replay gets to the end, and takes no rejection back. -/
theorem lenient_ok (clock : Nat → Nat → Instant) (m : Market) (s : Summary) (number : Nat)
    {lines : List (List UInt8)} (htext : ∀ bytes ∈ lines, (decode? bytes).isSome) :
    ∃ m' s', replayLines false clock m s number lines = (m', .ok s') ∧
      s.rejected ≤ s'.rejected := by
  induction lines generalizing m s number with
  | nil => exact ⟨m, s, rfl, Nat.le_refl _⟩
  | cons bytes lines ih =>
    obtain ⟨hbytes, hlines⟩ := List.forall_mem_cons.mp htext
    obtain ⟨m₁, s₁, rejected, hstep⟩ := exists_step (clock number) m s hbytes
    obtain ⟨m', s', hrun, hle⟩ := ih m₁ s₁ (number + 1) hlines
    refine ⟨m', s', (hstep.lenient_cons lines).trans hrun, ?_⟩
    have hcount := hstep.rejected_eq
    omega

end MarketDepth.Feed
