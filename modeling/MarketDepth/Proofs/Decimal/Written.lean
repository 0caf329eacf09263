/-
MarketDepth/Proofs/Decimal/Written.lean

Reading decimals that were written.

The written form of a decimal shows its scale: behind the point stand as many digits as
the scale says.  So a reader finds the whole mantissa and all places, and nothing is
rounded, because what the first few digits make is never larger than the mantissa.

Main result: `Decimal.ofText?_toText`.
-/
import MarketDepth.Decimal.Reader
import MarketDepth.Decimal.Text
import MarketDepth.Proofs.Text.Digits

namespace MarketDepth.Decimal

open Text (digit? digit?_of_isDigit le_ofDigitChars)

variable {x : Scan} {ds rest : List Char} {n width : Nat} {seen : Bool}

/-! ### Reading digits -/

/-- All digits are taken if there is room for them. -/
theorem read_digits (point seen : Bool) (rest : List Char) (hds : ∀ c ∈ ds, c.isDigit)
    (hfits : Nat.ofDigitChars 10 ds x.mantissa < limit)
    (hplaces : point = true → x.places + ds.length ≤ 28) :
    Scan.read x point seen (ds ++ rest) =
      Scan.read
        ⟨Nat.ofDigitChars 10 ds x.mantissa, if point then x.places + ds.length else x.places⟩
        point (seen || !ds.isEmpty) rest := by
  induction ds generalizing x seen with
  | nil =>
    obtain ⟨mantissa, places⟩ := x
    cases point <;> cases seen <;> rfl
  | cons c ds ih =>
    obtain ⟨hc, hds⟩ := List.forall_mem_cons.mp hds
    rw [Nat.ofDigitChars_cons, Nat.mul_comm] at hfits ⊢
    rw [List.length_cons] at hplaces ⊢
    -- behind the point, each digit takes one of the places that are left
    have hroom : ¬(point ∧ x.places = 28) := by
      rintro ⟨hpoint, hfull⟩
      have hle := hplaces hpoint
      omega
    have hnext := Nat.lt_of_le_of_lt (le_ofDigitChars _ ds) hfits
    have hstep : Scan.read x point seen (c :: (ds ++ rest)) =
        Scan.read ⟨x.mantissa * 10 + (c.toNat - '0'.toNat),
          if point then x.places + 1 else x.places⟩ point true (ds ++ rest) := by
      rw [Scan.read, if_neg hroom, digit?_of_isDigit hc]
      exact if_pos hnext
    have hplaces' : point = true → (if point then x.places + 1 else x.places) + ds.length ≤ 28 := by
      intro hpoint
      have hle := hplaces hpoint
      rw [if_pos hpoint]
      omega
    rw [List.cons_append, hstep, ih true hds hfits hplaces']
    cases point with
    | true =>
      have hlength : x.places + 1 + ds.length = x.places + (ds.length + 1) := by omega
      simp only [if_true, hlength, Bool.true_or, List.isEmpty_cons, Bool.not_false, Bool.or_true]
    | false => simp

theorem read_point (hseen : seen = true) :
    Scan.read x false seen ('.' :: rest) = Scan.read x true true rest := by
  rw [Scan.read, hseen, if_neg (by simp)]
  rfl

/-! ### What is written -/

theorem paddedDigits_isDigit : ∀ c ∈ paddedDigits n width, c.isDigit := by
  intro c hc
  rcases List.mem_append.mp hc with hc | hc
  · rw [List.eq_of_mem_replicate hc]
    rfl
  · exact Text.isDigit_of_mem_toDigits hc

/-- A number is padded to the width if it fits. -/
theorem length_paddedDigits (hwidth : 0 < width) (h : n < tenPow width) :
    (paddedDigits n width).length = width := by
  have hlength := (Nat.length_toDigits_le_iff (b := 10) (by decide) hwidth).mpr h
  rw [paddedDigits, List.length_append, List.length_replicate]
  omega

theorem ofDigitChars_paddedDigits (n width : Nat) :
    Nat.ofDigitChars 10 (paddedDigits n width) 0 = n := by
  rw [paddedDigits, Nat.ofDigitChars_append, Nat.ofDigitChars_replicate_zero, Nat.mul_zero,
    Nat.ofDigitChars_ten_toDigits]

/-- What is written behind the sign: the whole part, and behind a point, if the scale is
above zero, the fraction. -/
def unsignedChars (n scale : Nat) : List Char :=
  Nat.toDigits 10 (n / tenPow scale) ++
    if scale = 0 then [] else '.' :: paddedDigits (n % tenPow scale) scale

theorem toChars_eq (d : Decimal) : d.toChars =
    (if d.mantissa < 0 then ['-'] else []) ++ unsignedChars d.mantissa.natAbs d.scale := by
  unfold toChars unsignedChars
  by_cases hscale : d.scale = 0
  · simp [hscale]
  · simp [hscale]

/-- The digits in front of the point and behind it are read back as one mantissa. -/
theorem read_unsignedChars {scale : Nat} (hscale : scale ≤ 28) (hn : n < limit) :
    Scan.read ⟨0, 0⟩ false false (unsignedChars n scale) = some ⟨n, scale⟩ := by
  have hvalue : Nat.ofDigitChars 10 (Nat.toDigits 10 (n / tenPow scale)) 0 = n / tenPow scale :=
    Nat.ofDigitChars_ten_toDigits
  have hsmall : n / tenPow scale < limit := Nat.lt_of_le_of_lt (Nat.div_le_self _ _) hn
  have hwhole : ∀ rest, Scan.read ⟨0, 0⟩ false false (Nat.toDigits 10 (n / tenPow scale) ++ rest) =
      Scan.read ⟨n / tenPow scale, 0⟩ false true rest := by
    intro rest
    have hne : (Nat.toDigits 10 (n / tenPow scale)).isEmpty = false := by
      rw [List.isEmpty_eq_false_iff]
      exact Text.toDigits_ne_nil _
    rw [read_digits false false rest (fun c hc => Text.isDigit_of_mem_toDigits hc) (by rwa [hvalue])
      (by rintro ⟨⟩), hvalue, hne]
    rfl
  rw [unsignedChars, hwhole]
  split
  · next hzero =>
    rw [hzero, tenPow_zero, Nat.div_one]
    rfl
  · next hpositive =>
    have hlength := length_paddedDigits (Nat.pos_of_ne_zero hpositive)
      (Nat.mod_lt n (tenPow_pos scale))
    -- the digits behind the point go on from the whole part
    have hmantissa : Nat.ofDigitChars 10 (paddedDigits (n % tenPow scale) scale)
        (n / tenPow scale) = n := by
      rw [Nat.ofDigitChars_eq_ofDigitChars_zero, hlength, ofDigitChars_paddedDigits]
      exact Nat.div_add_mod n (10 ^ scale)
    have hfraction := read_digits (x := ⟨n / tenPow scale, 0⟩) true true [] paddedDigits_isDigit
      (by rwa [hmantissa]) (fun _ => by rwa [hlength, Nat.zero_add])
    rw [List.append_nil, hmantissa, hlength] at hfraction
    rw [read_point rfl, hfraction, Nat.zero_add]
    rfl

/-- What is written begins with a digit, if not with a minus sign. -/
theorem splitSign_toChars (d : Decimal) :
    splitSign d.toChars = (decide (d.mantissa < 0), unsignedChars d.mantissa.natAbs d.scale) := by
  rw [toChars_eq]
  by_cases hneg : d.mantissa < 0
  · rw [if_pos hneg, decide_eq_true hneg]
    rfl
  · rw [if_neg hneg, decide_eq_false hneg, List.nil_append, unsignedChars]
    obtain ⟨c, cs, hdigits, hc⟩ := Text.exists_toDigits (d.mantissa.natAbs / tenPow d.scale)
    rw [hdigits, List.cons_append]
    unfold splitSign
    split
    · next heq =>
      rw [(List.cons.inj heq).1] at hc
      cases hc
    · next heq =>
      rw [(List.cons.inj heq).1] at hc
      cases hc
    · rfl

theorem readPlain?_toChars (d : Decimal) : readPlain? d.toChars = some d := by
  rw [readPlain?, splitSign_toChars]
  simp only [read_unsignedChars d.scale_le d.mantissa_lt, Option.bind_some, decide_eq_true_eq]
  have hmantissa : (if d.mantissa < 0 then -(d.mantissa.natAbs : Int) else d.mantissa.natAbs) =
      d.mantissa := by
    split <;> omega
  rw [hmantissa]
  exact of?_self d

/-- **A written decimal is read back**, with its scale. -/
theorem ofText?_toText (d : Decimal) : ofText? d.toText = some d := by
  rw [ofText?, toText, String.toList_ofList, read?, readPlain?_toChars]
  rfl

end MarketDepth.Decimal
