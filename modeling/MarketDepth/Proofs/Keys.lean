/-
MarketDepth/Proofs/Keys.lean

Keys that are spelt again.

A key is normalised when it is made of words, and normalising it again changes nothing:
its texts have no blanks at their ends, they are in one case, and the base currency, which
ends at the first delimiter, has none.  So the words that name a key spell the same key
(`Key.ofWords_name`).
-/
import Mathlib.Data.List.TakeDrop
import MarketDepth.Proofs.Text.Casing
import MarketDepth.Word

namespace MarketDepth

namespace Text

/-- A text that was trimmed and brought into upper case stays as it is. -/
theorem toUpper_trim_idem (s : String) :
    toUpper (trim (toUpper (trim s))) = toUpper (trim s) := by
  have htrimmed := (recased_upperChars (trimChars s.toList)).trimmed (trimmed_trimChars _)
  simp only [toUpper, trim, String.toList_ofList, htrimmed.trimChars_eq, upperChars_upperChars]

theorem toLower_trim_idem (s : String) :
    toLower (trim (toLower (trim s))) = toLower (trim s) := by
  have htrimmed := (recased_lowerChars (trimChars s.toList)).trimmed (trimmed_trimChars _)
  simp only [toLower, trim, String.toList_ofList, htrimmed.trimChars_eq, lowerChars_lowerChars]

/-- It is blank only if the text was blank. -/
theorem isBlankText_toUpper_trim {s : String} (h : IsBlankText (toUpper (trim s))) :
    IsBlankText s := by
  have hrecased := recased_upperChars (trimChars s.toList)
  have htrimmed := hrecased.trimmed (trimmed_trimChars _)
  unfold IsBlankText at h ⊢
  rw [← trimChars_eq_nil_iff] at h ⊢
  simp only [toUpper, trim, String.toList_ofList, htrimmed.trimChars_eq] at h
  exact hrecased.eq_nil_iff.mp h

end Text

namespace Pair

open Text (IsBlankText)

variable {word : String} {p : Pair} {base quote : List Char} {d : Char}

theorem isDelimiter_iff {c : Char} : isDelimiter c ↔ c ∈ ['-', '/', '_'] := by
  simp [isDelimiter, or_assoc]

/-- The texts before and after the first delimiter of a word. -/
def Split (word : String) (base quote : List Char) : Prop :=
  (∀ c ∈ base, isDelimiter c = false) ∧
    ∃ d, isDelimiter d ∧ word = String.ofList (base ++ d :: quote)

/-- A pair is split at its first delimiter. -/
theorem Split.ofWord_eq (h : Split word base quote) :
    ofWord word =
      if base.all Text.isBlank || quote.all Text.isBlank then .error (.invalidPair word)
      else .ok (ofCurrencies (String.ofList base) (String.ofList quote)) := by
  obtain ⟨hbase, d, hd, rfl⟩ := h
  have hspan : (base ++ d :: quote).span (fun c => !isDelimiter c) = (base, d :: quote) := by
    have hskip : ∀ c ∈ base, (!isDelimiter c) = true := by simpa using hbase
    rw [List.span_eq_takeWhile_dropWhile, List.takeWhile_append_of_pos hskip,
      List.dropWhile_append_of_pos hskip, List.takeWhile_cons_of_neg (by simp [hd]),
      List.dropWhile_cons_of_neg (by simp [hd]), List.append_nil]
  rw [ofWord, String.toList_ofList, hspan]

theorem undelimited_or_exists_split (word : String) :
    (∀ c ∈ word.toList, isDelimiter c = false) ∨ ∃ base quote, Split word base quote := by
  have hsplit := List.takeWhile_append_dropWhile (p := fun c => !isDelimiter c) (l := word.toList)
  have hbase : ∀ c ∈ word.toList.takeWhile (fun c => !isDelimiter c), isDelimiter c = false := by
    intro c hc
    simpa using List.mem_takeWhile_imp hc
  cases hrest : word.toList.dropWhile (fun c => !isDelimiter c) with
  | nil =>
    rw [hrest, List.append_nil] at hsplit
    rw [hsplit] at hbase
    exact .inl hbase
  | cons d quote =>
    have hne : word.toList.dropWhile (fun c => !isDelimiter c) ≠ [] := by simp [hrest]
    have hd : isDelimiter d := by simpa [hrest] using List.head_dropWhile_not _ hne
    refine .inr ⟨_, quote, hbase, d, hd, ?_⟩
    rw [← hrest, hsplit, String.ofList_toList]

theorem ofWord_of_undelimited (h : ∀ c ∈ word.toList, isDelimiter c = false) :
    ofWord word = .error (.invalidPair word) := by
  have hrest : word.toList.dropWhile (fun c => !isDelimiter c) = [] := by
    rw [List.dropWhile_eq_nil_iff]
    simpa using h
  rw [ofWord, List.span_eq_takeWhile_dropWhile, hrest]

theorem exists_split_of_ofWord (h : ofWord word = .ok p) :
    ∃ base quote, Split word base quote ∧
      base.all Text.isBlank = false ∧ quote.all Text.isBlank = false ∧
      p = ofCurrencies (String.ofList base) (String.ofList quote) := by
  rcases undelimited_or_exists_split word with hnone | ⟨base, quote, hsplit⟩
  · rw [ofWord_of_undelimited hnone] at h
    cases h
  · rw [hsplit.ofWord_eq] at h
    split at h
    · cases h
    · next hblank =>
      rw [Bool.not_eq_true, Bool.or_eq_false_iff] at hblank
      exact ⟨base, quote, hsplit, hblank.1, hblank.2, (Except.ok.inj h).symm⟩

/-- A pair as it is kept: its currencies are normalised, neither of them is blank, and no
delimiter is in the base currency. -/
structure Normal (p : Pair) : Prop where
  same : ofCurrencies p.base p.quote = p
  undelimited : ∀ c ∈ p.base.toList, isDelimiter c = false
  base_nonblank : ¬IsBlankText p.base
  quote_nonblank : ¬IsBlankText p.quote

theorem normal_of_ofWord (h : ofWord word = .ok p) : p.Normal := by
  obtain ⟨base, quote, ⟨hbase, -⟩, hbaseText, hquoteText, rfl⟩ := exists_split_of_ofWord h
  refine ⟨?_, ?_, ?_, ?_⟩
  · simp only [ofCurrencies, Text.toUpper_trim_idem]
  · -- upper case makes no delimiter, and trimming only takes away
    intro c hc
    by_contra hdelimiter
    rw [Bool.not_eq_false] at hdelimiter
    simp only [ofCurrencies, Text.toUpper, Text.trim, String.toList_ofList] at hc
    have hmem := Text.mem_of_mem_upperChars (isDelimiter_iff.mp hdelimiter) hc
    rw [hbase c (Text.mem_of_mem_trimChars hmem)] at hdelimiter
    cases hdelimiter
  · intro hblank
    have hblank := Text.isBlankText_toUpper_trim hblank
    rw [IsBlankText, String.toList_ofList, hbaseText] at hblank
    cases hblank
  · intro hblank
    have hblank := Text.isBlankText_toUpper_trim hblank
    rw [IsBlankText, String.toList_ofList, hquoteText] at hblank
    cases hblank

/-- The text of a pair spells the pair. -/
theorem Normal.ofWord_text (h : p.Normal) : ofWord p.text = .ok p := by
  have hsplit : Split p.text p.base.toList p.quote.toList := by
    refine ⟨h.undelimited, '-', by decide, ?_⟩
    rw [text, ← String.toList_inj]
    simp
  have hblank : (p.base.toList.all Text.isBlank || p.quote.toList.all Text.isBlank) = false := by
    rw [Bool.or_eq_false_iff, ← Bool.not_eq_true, ← Bool.not_eq_true]
    exact ⟨h.base_nonblank, h.quote_nonblank⟩
  rw [hsplit.ofWord_eq, hblank]
  simp [h.same]

end Pair

/-- The name of a segment is a word for it. -/
theorem Segment.ofWord_name (s : Segment) : ofWord s.name = .ok s := by
  cases s <;> rfl

/-- The words that name a key spell it. -/
theorem Key.ofWords_name {key : Key} {exchange pair segment : String}
    (h : ofWords exchange pair segment = .ok key) :
    ofWords key.exchange key.pair.text key.segment.name = .ok key := by
  unfold ofWords at h
  cases hpair : Pair.ofWord pair with
  | error e => simp [hpair, bind, Except.bind] at h
  | ok p =>
    cases hsegment : Segment.ofWord segment with
    | error e => simp [hpair, hsegment, bind, Except.bind] at h
    | ok s =>
      simp only [hpair, hsegment, bind, Except.bind, pure, Except.pure, Except.ok.injEq] at h
      subst h
      simp only [ofWords, ofParts, (Pair.normal_of_ofWord hpair).ofWord_text, Segment.ofWord_name,
        Text.toLower_trim_idem]
      rfl

end MarketDepth
