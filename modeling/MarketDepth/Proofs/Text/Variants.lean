/-
MarketDepth/Proofs/Text/Variants.lean

Texts that are the same but for their case and the blanks around them.

A text is trimmed and brought into one case before it is kept.  Which of the two comes first
makes no difference: a case mapping leaves blanks as they are and makes no others, and a
blank next to a letter does not change what the letter becomes, not even a final sigma
(`Text.Casing`).  So blanks around a text and variants of its letters that the mapping cannot
tell apart leave no trace in what is kept (`Text.Casing.of_variants`).

Main results: `Text.upper_casing` and `Text.lower_casing`.
-/
import MarketDepth.Proofs.Text.Casing

namespace MarketDepth.Text

variable {cs core front back : List Char} {c : Char}

/-! ### Blanks around a text -/

/-- Blanks around a text are trimmed off with the blanks at its own ends. -/
theorem trimChars_append (hfront : front.all isBlank) (hback : back.all isBlank) :
    trimChars (front ++ core ++ back) = trimChars core := by
  have hdropFront :
      (front ++ core ++ back).dropWhile isBlank = (core ++ back).dropWhile isBlank := by
    rw [List.append_assoc, List.dropWhile_append_of_pos (List.all_eq_true.mp hfront)]
  by_cases hcore : core.all isBlank
  · have hall : (front ++ core ++ back).all isBlank := by
      rw [List.all_append, List.all_append, hfront, hcore, hback]
      rfl
    rw [trimChars_eq_nil_iff.mpr hcore, trimChars_eq_nil_iff.mpr hall]
  · have hne : (core.dropWhile isBlank).isEmpty = false := by
      rw [List.isEmpty_eq_false_iff, ne_eq, List.dropWhile_eq_nil_iff, ← List.all_eq_true]
      exact hcore
    have hbackReverse : ∀ c ∈ back.reverse, isBlank c := by
      intro c hc
      exact List.all_eq_true.mp hback c (List.mem_reverse.mp hc)
    rw [trimChars, trimChars, hdropFront, List.dropWhile_append, hne, if_neg (by simp),
      List.reverse_append, List.dropWhile_append_of_pos hbackReverse]

/-- A text is what is left of it when it is trimmed, with blanks around it. -/
theorem exists_blanks (cs : List Char) :
    ∃ front back, front.all isBlank ∧ back.all isBlank ∧ cs = front ++ trimChars cs ++ back := by
  refine ⟨cs.takeWhile isBlank, (cs.dropWhile isBlank).rtakeWhile isBlank, ?_, ?_, ?_⟩
  · exact List.all_eq_true.mpr fun c hc => List.mem_takeWhile_imp hc
  · exact List.all_eq_true.mpr fun c hc => List.mem_rtakeWhile_imp hc
  · rw [trimChars_eq_rdropWhile, List.append_assoc, List.rdropWhile_append_rtakeWhile,
      List.takeWhile_append_dropWhile]

/-! ### Case mappings and blanks -/

/-- What a case mapping of texts does with blanks: it makes none, and those around a text it
leaves alone, without regard to them in the text. -/
structure Casing (fold : List Char → List Char) : Prop where
  recased : ∀ cs, Recased cs (fold cs)
  blanks : ∀ {front back : List Char} (core : List Char), front.all isBlank → back.all isBlank →
    fold (front ++ core ++ back) = front ++ fold core ++ back

/-- The second text has blanks around it. -/
def Padded (core cs : List Char) : Prop :=
  ∃ front back, front.all isBlank ∧ back.all isBlank ∧ cs = front ++ core ++ back

/-- The texts are the same but for the blanks around them and for differences of case, as
far as these go for a case mapping. -/
def Variants (fold : List Char → List Char) (cs ds : List Char) : Prop :=
  ∃ core core', Padded core cs ∧ Padded core' ds ∧ fold core = fold core'

theorem Padded.trimChars_eq (h : Padded core cs) : trimChars cs = trimChars core := by
  obtain ⟨front, back, hfront, hback, rfl⟩ := h
  exact trimChars_append hfront hback

namespace Casing

variable {fold : List Char → List Char} {ds : List Char}

/-- A text can be trimmed before or after its case is changed. -/
theorem trimChars_comm (h : Casing fold) (cs : List Char) :
    fold (trimChars cs) = trimChars (fold cs) := by
  obtain ⟨front, back, hfront, hback, hcs⟩ := exists_blanks cs
  have htrimmed : Trimmed (fold (trimChars cs)) :=
    (h.recased _).trimmed (trimmed_trimChars cs)
  have hfold : fold cs = front ++ fold (trimChars cs) ++ back := by
    rw [← h.blanks (trimChars cs) hfront hback, ← hcs]
  rw [hfold, trimChars_append hfront hback, htrimmed.trimChars_eq]

/-- Variants of a text are kept as the same text. -/
theorem of_variants (h : Casing fold) (hvariants : Variants fold cs ds) :
    fold (trimChars cs) = fold (trimChars ds) := by
  obtain ⟨core, core', hcs, hds, hsame⟩ := hvariants
  rw [hcs.trimChars_eq, hds.trimChars_eq, h.trimChars_comm, h.trimChars_comm, hsame]

/-- Variants of a text are blank together. -/
theorem all_isBlank_of_variants (h : Casing fold) (hvariants : Variants fold cs ds) :
    cs.all isBlank = ds.all isBlank := by
  have hkept := h.of_variants hvariants
  have hblank (ts : List Char) : ts.all isBlank = true ↔ fold (trimChars ts) = [] := by
    rw [(h.recased _).eq_nil_iff, trimChars_eq_nil_iff]
  rw [Bool.eq_iff_iff, hblank, hblank, hkept]

end Casing

/-! ### Upper case -/

/-- What a map does not move at all. -/
def CaseMap.Spares (m : CaseMap) (spared : List Stretch) : Prop :=
  (m.moved.all fun s => spared.all s.apart) = true

instance (m : CaseMap) (spared : List Stretch) : Decidable (m.Spares spared) :=
  inferInstanceAs (Decidable (_ = true))

theorem CaseMap.Spares.apply_eq {m : CaseMap} {spared : List Stretch} (h : m.Spares spared)
    {s : Stretch} (hs : s ∈ spared) (hc : c.toNat ∈ s) : m.apply c = [c] := by
  refine apply_of_not_moved fun s' hs' hc' => ?_
  have hapart := List.all_eq_true.mp (List.all_eq_true.mp h s' hs') s hs
  exact Stretch.not_mem_of_apart hapart hc' hc

theorem upperMap_spares : upperMap.Spares (delimiters ++ blankRanges.stretches) := by
  decide +kernel

theorem upperChars_blanks (h : front.all isBlank) : upperChars front = front := by
  refine (List.flatMap_congr fun c hc => ?_).trans (List.flatMap_singleton' _)
  obtain ⟨s, hs, hmem⟩ := Ranges.exists_stretch (List.all_eq_true.mp h c hc)
  exact upperMap_spares.apply_eq (List.mem_append_right _ hs) hmem

theorem upper_casing : Casing upperChars where
  recased := recased_upperChars
  blanks core hfront hback := by
    rw [upperChars, List.flatMap_append, List.flatMap_append]
    exact congrArg₂ (· ++ upperChars core ++ ·) (upperChars_blanks hfront) (upperChars_blanks hback)

/-- A delimiter is left where it was. -/
theorem mem_upperChars_of_mem (hc : c ∈ ['-', '/', '_']) (h : c ∈ cs) : c ∈ upperChars cs := by
  have hdelimiter : Stretch.point c.toNat ∈ delimiters := List.mem_map_of_mem hc
  have hsame := upperMap_spares.apply_eq (List.mem_append_left _ hdelimiter) (Stretch.mem_point _)
  refine List.mem_flatMap.mpr ⟨c, h, ?_⟩
  rw [hsame]
  exact List.mem_singleton_self c

/-! ### Lower case -/

theorem lowerMap_spares : lowerMap.Spares blankRanges.stretches := by
  decide +kernel

/-- No code point is in both tables. -/
def Ranges.Disjoint (rs rs' : Ranges) : Prop :=
  (rs.stretches.all fun s => rs'.stretches.all s.apart) = true

instance (rs rs' : Ranges) : Decidable (rs.Disjoint rs') := inferInstanceAs (Decidable (_ = true))

theorem Ranges.Disjoint.not_contains {rs rs' : Ranges} (h : rs.Disjoint rs')
    (hc : rs.contains c) : rs'.contains c = false := by
  by_contra hc'
  rw [Bool.not_eq_false] at hc'
  obtain ⟨s, hs, hmem⟩ := exists_stretch hc
  obtain ⟨s', hs', hmem'⟩ := exists_stretch hc'
  have hapart := List.all_eq_true.mp (List.all_eq_true.mp h s hs) s' hs'
  exact Stretch.not_mem_of_apart hapart hmem hmem'

/-- Case does not ignore a blank, and a blank has no case. -/
theorem blank_uncased (h : isBlank c) :
    caseIgnorableRanges.contains c = false ∧ casedRanges.contains c = false := by
  have hdisjoint : blankRanges.Disjoint caseIgnorableRanges ∧ blankRanges.Disjoint casedRanges := by
    decide +kernel
  exact ⟨hdisjoint.1.not_contains h, hdisjoint.2.not_contains h⟩

/-- So a letter does not see past a blank. -/
theorem startsCased_append (h : back.all isBlank) (cs : List Char) :
    startsCased (cs ++ back) = startsCased cs := by
  unfold startsCased
  rw [List.dropWhile_append]
  cases hcs : cs.dropWhile caseIgnorableRanges.contains with
  | cons c rest => rfl
  | nil =>
    cases back with
    | nil => rfl
    | cons c rest =>
      obtain ⟨hignorable, hcased⟩ := blank_uncased (List.all_eq_true.mp h c List.mem_cons_self)
      simp [hignorable, hcased]

theorem lowerAfter_blanks (h : front.all isBlank) (before rest : List Char) :
    lowerAfter before (front ++ rest) = front ++ lowerAfter (front.reverse ++ before) rest := by
  induction front generalizing before with
  | nil => rfl
  | cons c front ih =>
    rw [List.all_cons, Bool.and_eq_true] at h
    obtain ⟨hc, hfront⟩ := h
    obtain ⟨s, hs, hmem⟩ := Ranges.exists_stretch hc
    have hsigma : c ≠ 'Σ' := by
      rintro rfl
      exact absurd hc (by decide)
    rw [List.cons_append, lowerAfter, if_neg hsigma, lowerMap_spares.apply_eq hs hmem, ih hfront,
      List.reverse_cons, List.append_assoc, List.singleton_append]
    rfl

/-- Blanks in front of what stands before a text, and behind the text, are not seen. -/
theorem lowerAfter_append (hfront : front.all isBlank) (hback : back.all isBlank)
    (before cs : List Char) :
    lowerAfter (before ++ front) (cs ++ back) = lowerAfter before cs ++ back := by
  induction cs generalizing before with
  | nil =>
    have hblanks := lowerAfter_blanks hback (before ++ front) []
    rw [List.append_nil] at hblanks
    rw [List.nil_append, hblanks]
    simp [lowerAfter]
  | cons c rest ih =>
    simp only [List.cons_append, lowerAfter, startsCased_append hfront, startsCased_append hback]
    rw [← List.cons_append, ih (c :: before), List.append_assoc]

theorem lower_casing : Casing lowerChars where
  recased := recased_lowerChars
  blanks := by
    intro front back core hfront hback
    have hreverse : front.reverse.all isBlank := by rw [List.all_reverse, hfront]
    have happend := lowerAfter_append hreverse hback [] core
    rw [List.nil_append] at happend
    rw [lowerChars, List.append_assoc, lowerAfter_blanks hfront, List.append_nil, happend,
      List.append_assoc]
    rfl

end MarketDepth.Text
