/-
MarketDepth/Proofs/Text/Digits.lean

The digits of a number.

The library says how a number is written and that it is read back; here stands what a
reader that goes digit by digit needs besides: only zero begins with the digit zero, and
what is read only grows.
-/
import MarketDepth.Text.Digit

namespace MarketDepth.Text

variable {c : Char} {n : Nat}

theorem digit?_of_isDigit (h : c.isDigit) : digit? c = some (c.toNat - '0'.toNat) := by
  have hsome := digit?_isSome (c := c)
  rw [h] at hsome
  unfold digit? at hsome ⊢
  split at hsome
  · next hdigit => exact if_pos hdigit
  · cases hsome

theorem digit?_eq_none (h : c.isDigit = false) : digit? c = none := by
  rw [← digit?_isSome, Option.isSome_eq_false_iff, Option.isNone_iff_eq_none] at h
  exact h

theorem toDigits_ne_nil (n : Nat) : Nat.toDigits 10 n ≠ [] :=
  List.length_pos_iff.mp Nat.length_toDigits_pos

theorem isDigit_of_mem_toDigits (h : c ∈ Nat.toDigits 10 n) : c.isDigit :=
  Nat.isDigit_of_mem_toDigits (by decide) (by decide) h

/-- A number begins with a digit. -/
theorem exists_toDigits (n : Nat) : ∃ d ds, Nat.toDigits 10 n = d :: ds ∧ d.isDigit := by
  obtain ⟨d, ds, hds⟩ := List.exists_cons_of_ne_nil (toDigits_ne_nil n)
  exact ⟨d, ds, hds, isDigit_of_mem_toDigits (n := n) (by rw [hds]; exact List.mem_cons_self)⟩

/-- Only zero begins with a zero. -/
theorem head_toDigits_ne_zero (h : n ≠ 0) : (Nat.toDigits 10 n).head? ≠ some '0' := by
  induction n using Nat.strongRecOn with
  | ind n ih =>
    rw [Nat.toDigits_eq_if (by decide)]
    split
    · intro hhead
      exact h (Nat.digitChar_eq_zero.mp (Option.some.inj hhead))
    · have hlower := ih (n / 10) (by omega) (by omega)
      obtain ⟨d, ds, hds⟩ := List.exists_cons_of_ne_nil (toDigits_ne_nil (n / 10))
      rw [hds] at hlower ⊢
      exact hlower

/-- What is read only grows. -/
theorem le_ofDigitChars (m : Nat) (cs : List Char) : m ≤ Nat.ofDigitChars 10 cs m := by
  induction cs generalizing m with
  | nil => exact Nat.le_refl m
  | cons c cs ih =>
    have hstep := ih (10 * m + (c.toNat - '0'.toNat))
    rw [Nat.ofDigitChars_cons]
    omega

end MarketDepth.Text
