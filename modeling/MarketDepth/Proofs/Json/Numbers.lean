/-
MarketDepth/Proofs/Json/Numbers.lean

Reading whole numbers that were written.

A whole number that fits 64 bits, with a sign or without one, is read back as it was
written.  No digit is dropped on the way, as every number that the first few digits make
is smaller than the whole one, and zero alone begins with a zero.

Main result: `Json.reads_integer`.
-/
import Mathlib.Data.List.TakeDrop
import MarketDepth.Proofs.Json.Reads
import MarketDepth.Proofs.Text.Digits

namespace MarketDepth.Json

open Text (digit? digit?_of_isDigit digit?_eq_none le_ofDigitChars)

variable {cs rest : List Char} {m n : Nat} {negative : Bool}

/-! ### What may follow a number -/

/-- What follows a number does not go on with it. -/
theorem Ends.not_isDigit (h : Ends rest) : ∀ c ∈ rest.head?, c.isDigit = false := by
  intro c hc
  rcases h c hc with rfl | rfl | rfl <;> rfl

namespace Numeral

/-- All digits are taken that are there, if the number fits. -/
theorem takeDigits_append (hcs : ∀ c ∈ cs, c.isDigit)
    (hrest : ∀ c ∈ rest.head?, c.isDigit = false)
    (hfits : Nat.ofDigitChars 10 cs m < significandLimit) :
    takeDigits m (cs ++ rest) = (Nat.ofDigitChars 10 cs m, cs.length, rest) := by
  induction cs generalizing m with
  | nil =>
    cases rest with
    | nil => rfl
    | cons c rest =>
      have hc : digit? c = none := digit?_eq_none (hrest c rfl)
      simp only [List.nil_append, takeDigits, hc, Option.map_none]
      rfl
  | cons c cs ih =>
    obtain ⟨hc, hcs⟩ := List.forall_mem_cons.mp hcs
    rw [Nat.ofDigitChars_cons, Nat.mul_comm] at hfits ⊢
    -- the digits so far make a number below the whole one, so that none is dropped
    have hnext := Nat.lt_of_le_of_lt (le_ofDigitChars _ cs) hfits
    simp only [List.cons_append, takeDigits, digit?_of_isDigit hc, Option.map_some, if_pos hnext,
      ih hcs hfits, List.length_cons]

/-- A number that nothing goes on with is whole. -/
theorem readTail_ends (h : Ends rest) :
    readTail negative n 0 rest = readTail.whole? negative n rest := by
  cases rest with
  | nil => rfl
  | cons c rest =>
    rcases h c rfl with rfl | rfl | rfl <;> rfl

/-- The digits of a number are read back. -/
theorem readUnsigned_toDigits (hn : n < twoPow 64) (h : Ends rest) :
    readUnsigned negative (Nat.toDigits 10 n ++ rest) = readTail.whole? negative n rest := by
  by_cases hzero : n = 0
  · -- a zero may stand alone, but not in front of another digit
    subst hzero
    have hnext : rest.head?.any Char.isDigit = false := by
      rw [Option.any_eq_false]
      exact h.not_isDigit
    show readUnsigned negative ('0' :: rest) = _
    rw [readUnsigned, hnext]
    exact readTail_ends h
  · obtain ⟨d, ds, hds, hdigit⟩ := Text.exists_toDigits n
    have hd : d ≠ '0' := by
      rintro rfl
      exact Text.head_toDigits_ne_zero hzero (by rw [hds]; rfl)
    have hdigits : ∀ c ∈ d :: ds, c.isDigit := by
      intro c hc
      rw [← hds] at hc
      exact Text.isDigit_of_mem_toDigits hc
    have hvalue : Nat.ofDigitChars 10 (d :: ds) 0 = n := by
      rw [← hds]
      exact Nat.ofDigitChars_ten_toDigits
    have htake := takeDigits_append (m := 0) hdigits h.not_isDigit (by rwa [hvalue])
    have hspan : rest.span Char.isDigit = ([], rest) := by
      cases rest with
      | nil => rfl
      | cons c rest => simp [List.span, List.span.loop, h.not_isDigit c rfl]
    rw [hvalue] at htake
    rw [hds, List.cons_append]
    unfold readUnsigned
    split
    · next heq => cases heq
    · next heq => exact absurd (List.cons.inj heq).1 hd
    · next c cs _ heq =>
      obtain ⟨rfl, rfl⟩ := List.cons.inj heq
      rw [if_pos hdigit, ← List.cons_append, htake]
      simp only [hspan, List.length_nil]
      exact readTail_ends h

/-- A whole number that fits 64 bits is read back. -/
theorem read_intChars {n : Int} (hlow : -(twoPow 63 : Int) ≤ n) (hhigh : n < twoPow 64)
    (h : Ends rest) : read (intChars n ++ rest) = .ok (.whole n, rest) := by
  unfold intChars
  split
  · next hneg =>
    have hfits : n.natAbs < twoPow 64 := by
      have : twoPow 63 < twoPow 64 := by decide
      omega
    rw [List.cons_append, read, readUnsigned_toDigits hfits h, readTail.whole?]
    have habs : n.natAbs ≠ 0 ∧ n.natAbs ≤ twoPow 63 := by omega
    have hvalue : -(n.natAbs : Int) = n := by omega
    rw [if_neg (by decide), if_pos habs, hvalue]
  · next hpos =>
    have hfits : n.natAbs < twoPow 64 := by omega
    have hvalue : (n.natAbs : Int) = n := by omega
    have hminus : ∀ cs, Nat.toDigits 10 n.natAbs ++ rest ≠ '-' :: cs := by
      intro cs heq
      obtain ⟨d, ds, hds, hd⟩ := Text.exists_toDigits n.natAbs
      rw [hds, List.cons_append] at heq
      rw [(List.cons.inj heq).1] at hd
      cases hd
    rw [read]
    · rw [readUnsigned_toDigits hfits h, readTail.whole?, if_pos rfl, hvalue]
    · exact hminus

end Numeral

/-- A whole number begins with a digit or a minus sign. -/
theorem head_intChars (n : Int) : ∃ c cs, intChars n = c :: cs ∧ (c = '-' ∨ c.isDigit) := by
  unfold intChars
  split
  · exact ⟨'-', _, rfl, .inl rfl⟩
  · obtain ⟨d, ds, hds, hd⟩ := Text.exists_toDigits n.natAbs
    exact ⟨d, ds, hds, .inr hd⟩

theorem isSpace_eq_false {c : Char} (h : c = '-' ∨ c.isDigit) : Reader.isSpace c = false := by
  rcases h with rfl | h
  · rfl
  · simp only [Reader.isSpace, Bool.or_eq_false_iff, beq_eq_false_iff_ne]
    refine ⟨⟨⟨?_, ?_⟩, ?_⟩, ?_⟩ <;>
      · rintro rfl
        cases h

/-- A whole number between two bounds that leave it within 64 bits is read back. -/
theorem reads_integer {low high n : Int} (hlow : low ≤ n) (hhigh : n ≤ high)
    (hlow' : -(twoPow 63 : Int) ≤ n) (hhigh' : n < twoPow 64) :
    Reads (Reader.integer low high) (Json.int n).chars n where
  begins := by
    obtain ⟨c, cs, hchars, hc⟩ := head_intChars n
    refine ⟨c, cs, hchars, isSpace_eq_false hc, ?_⟩
    rintro rfl
    rcases hc with hc | hc <;> cases hc
  run := by
    intro rest hrest
    obtain ⟨c, cs, hchars, hc⟩ := head_intChars n
    have hread := Numeral.read_intChars hlow' hhigh' hrest
    rw [chars]
    rw [hchars, List.cons_append] at hread ⊢
    rw [Reader.integer, Reader.bind_of_ok (Reader.require_cons (isSpace_eq_false hc)), if_pos hc]
    refine (Reader.bind_of_ok hread).trans ?_
    dsimp only
    rw [if_pos ⟨hlow, hhigh⟩]
    rfl

end MarketDepth.Json
