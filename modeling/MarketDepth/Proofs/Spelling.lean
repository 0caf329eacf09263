/-
MarketDepth/Proofs/Spelling.lean

Which words spell a key, and which spell the same one.

A word for a pair is read unless it has no delimiter or one of its currencies is blank
(`Pair.Unreadable`), a word for a segment unless it is none of the aliases, and a bad pair
is reported first.  What is read stays the same when the exchange and the currencies are
written in another case, with other blanks around them, with another delimiter between the
currencies and with another alias of the segment (`Key.Respelt`): a book is found under
every spelling of its key.

Main result: `Key.ofWords_spellings`.
-/
import MarketDepth.Proofs.Keys
import MarketDepth.Proofs.Text.Variants

namespace MarketDepth

/-! ### Segments -/

namespace Vocabulary

variable {α : Type} {wanted : Vocabulary} {aliases : List (String × α)} {word : String}
  {meaning : α} {e : BookError}

/-- The word is an alias of the meaning, but for blanks around it and the case of its letters
from a to z. -/
def Names (aliases : List (String × α)) (word : String) (meaning : α) : Prop :=
  ∃ name, (name, meaning) ∈ aliases ∧ name.toList = (Text.trimChars word.toList).map Char.toLower

theorem lookup_cases (wanted : Vocabulary) (aliases : List (String × α)) (word : String) :
    (∃ meaning, Names aliases word meaning ∧ wanted.lookup aliases word = .ok meaning) ∨
      (∀ meaning, ¬Names aliases word meaning) ∧
        wanted.lookup aliases word = .error (.unknownWord wanted word) := by
  unfold lookup
  dsimp only
  split
  · next name meaning hfind =>
    refine .inl ⟨meaning, ⟨name, List.mem_of_find?_eq_some hfind, ?_⟩, rfl⟩
    simpa using List.find?_some hfind
  · next hfind =>
    refine .inr ⟨?_, rfl⟩
    rintro meaning ⟨name, hmem, hname⟩
    exact List.find?_eq_none.mp hfind (name, meaning) hmem (by simpa using hname)

/-- A word that is an alias has the meaning of the alias, where no alias has two. -/
theorem lookup_eq_ok_iff
    (hunique : ∀ p ∈ aliases, ∀ q ∈ aliases, p.1 = q.1 → p.2 = q.2) :
    wanted.lookup aliases word = .ok meaning ↔ Names aliases word meaning := by
  rcases lookup_cases wanted aliases word with ⟨found, hfound, hlookup⟩ | ⟨hnone, hlookup⟩
  · rw [hlookup, Except.ok.injEq]
    constructor
    · rintro rfl
      exact hfound
    · rintro ⟨name, hmem, hname⟩
      obtain ⟨name', hmem', hname'⟩ := hfound
      exact hunique _ hmem' _ hmem (String.toList_inj.mp (hname'.trans hname.symm))
  · rw [hlookup]
    exact ⟨fun h => (nomatch h), fun h => absurd h (hnone meaning)⟩

theorem lookup_eq_error_iff :
    wanted.lookup aliases word = .error e ↔
      (∀ meaning, ¬Names aliases word meaning) ∧ e = .unknownWord wanted word := by
  rcases lookup_cases wanted aliases word with ⟨found, hfound, hlookup⟩ | ⟨hnone, hlookup⟩
  · rw [hlookup]
    exact ⟨fun h => (nomatch h), fun h => absurd hfound (h.1 found)⟩
  · rw [hlookup, Except.error.injEq, eq_comm]
    exact ⟨fun h => ⟨hnone, h⟩, fun h => h.2⟩

end Vocabulary

namespace Segment

variable {word : String} {s : Segment}

/-- The word is an alias of the segment. -/
def NamedBy (s : Segment) (word : String) : Prop := Vocabulary.Names aliases word s

theorem ofWord_eq_ok_iff : ofWord word = .ok s ↔ s.NamedBy word :=
  Vocabulary.lookup_eq_ok_iff (by decide)

end Segment

/-! ### Pairs -/

namespace Pair

open Text (upperChars Variants)

variable {word word' : String} {base quote base' quote' : List Char} {d d' : Char} {p : Pair}
  {e : BookError}

/-- The word has no delimiter, or there are only blanks before or after the first one. -/
inductive Unreadable (word : String) : Prop
  | undelimited (h : ∀ c ∈ word.toList, isDelimiter c = false)
  | blank {base quote : List Char} (h : Split word base quote)
      (hblank : base.all Text.isBlank ∨ quote.all Text.isBlank)

theorem ofWord_cases (word : String) :
    (Unreadable word ∧ ofWord word = .error (.invalidPair word)) ∨
      ¬Unreadable word ∧ ∃ p, ofWord word = .ok p := by
  have hbad (h : Unreadable word) : ofWord word = .error (.invalidPair word) := by
    cases h with
    | undelimited h => exact ofWord_of_undelimited h
    | blank hsplit h => rw [hsplit.ofWord_eq, if_pos ((Bool.or_eq_true _ _).mpr h)]
  by_cases h : Unreadable word
  · exact .inl ⟨h, hbad h⟩
  · refine .inr ⟨h, ?_⟩
    rcases undelimited_or_exists_split word with hnone | ⟨base, quote, hsplit⟩
    · exact absurd (.undelimited hnone) h
    · have hparts : ¬(base.all Text.isBlank || quote.all Text.isBlank) = true := fun hor =>
        h (.blank hsplit ((Bool.or_eq_true _ _).mp hor))
      exact ⟨_, by rw [hsplit.ofWord_eq, if_neg hparts]⟩

/-- Two words for a pair that are the same but for the delimiter between the currencies, the
blanks around these and the case of their letters. -/
def Respelt (word word' : String) : Prop :=
  ∃ base quote base' d' quote', Split word base quote ∧ isDelimiter d' ∧
    word' = String.ofList (base' ++ d' :: quote') ∧
    Variants upperChars base base' ∧ Variants upperChars quote quote'

/-- A delimiter is neither lost nor made by upper case, and it is not a blank: variants have
the same ones. -/
theorem undelimited_of_variants (hbase : ∀ c ∈ base, isDelimiter c = false)
    (h : Variants upperChars base base') : ∀ c ∈ base', isDelimiter c = false := by
  obtain ⟨core, core', ⟨front, back, -, -, rfl⟩, ⟨front', back', hfront', hback', rfl⟩, hsame⟩ := h
  intro c hc
  by_contra hdelimiter
  rw [Bool.not_eq_false] at hdelimiter
  have hdelimiter := isDelimiter_iff.mp hdelimiter
  have hnonblank : Text.isBlank c = false := by
    simp only [List.mem_cons, List.not_mem_nil, or_false] at hdelimiter
    rcases hdelimiter with rfl | rfl | rfl <;> decide
  have hcore : c ∈ core' := by
    rw [List.mem_append, List.mem_append] at hc
    rcases hc with (hc | hc) | hc
    · rw [List.all_eq_true.mp hfront' c hc] at hnonblank
      cases hnonblank
    · exact hc
    · rw [List.all_eq_true.mp hback' c hc] at hnonblank
      cases hnonblank
  have hupper : c ∈ upperChars core := hsame ▸ Text.mem_upperChars_of_mem hdelimiter hcore
  have hmem := Text.mem_of_mem_upperChars hdelimiter hupper
  have hnot := hbase c (by simp [hmem])
  rw [isDelimiter_iff.mpr hdelimiter] at hnot
  cases hnot

/-- A pair is the same under both of the words. -/
theorem Respelt.ofWord_iff (h : Respelt word word') :
    ofWord word = .ok p ↔ ofWord word' = .ok p := by
  obtain ⟨base, quote, base', d', quote', hsplit, hd', hword', hbase, hquote⟩ := h
  have hsplit' : Split word' base' quote' :=
    ⟨undelimited_of_variants hsplit.1 hbase, d', hd', hword'⟩
  have hpair : ofCurrencies (String.ofList base) (String.ofList quote) =
      ofCurrencies (String.ofList base') (String.ofList quote') := by
    simp only [ofCurrencies, Text.toUpper, Text.trim, String.toList_ofList,
      Text.upper_casing.of_variants hbase, Text.upper_casing.of_variants hquote]
  rw [hsplit.ofWord_eq, hsplit'.ofWord_eq, Text.upper_casing.all_isBlank_of_variants hbase,
    Text.upper_casing.all_isBlank_of_variants hquote, hpair]
  split <;> simp

end Pair

/-! ### Keys -/

namespace Key

open Text (lowerChars upperChars Variants)

variable {exchange pair segment exchange' pair' segment' : String} {key : Key} {e : BookError}

/-- Three words that are the same as three others but for blanks, case, the delimiter of the
pair and the choice among the aliases of a segment. -/
structure Respelt (exchange pair segment exchange' pair' segment' : String) : Prop where
  exchange : Variants lowerChars exchange.toList exchange'.toList
  pair : Pair.Respelt pair pair'
  segment : ∃ s : Segment, s.NamedBy segment ∧ s.NamedBy segment'

theorem ofWords_eq_ok_iff :
    ofWords exchange pair segment = .ok key ↔
      ∃ p s, Pair.ofWord pair = .ok p ∧ Segment.ofWord segment = .ok s ∧
        ofParts exchange p s = key := by
  unfold ofWords
  cases hpair : Pair.ofWord pair with
  | error e => simp [bind, Except.bind]
  | ok p =>
    cases hsegment : Segment.ofWord segment with
    | error e => simp [bind, Except.bind]
    | ok s => simp [bind, Except.bind, pure, Except.pure]

/-- The words are refused for the pair or, with a pair that can be read, for the segment. -/
theorem ofWords_eq_error_iff :
    ofWords exchange pair segment = .error e ↔
      (Pair.Unreadable pair ∧ e = .invalidPair pair) ∨
        (¬Pair.Unreadable pair ∧ (∀ s : Segment, ¬s.NamedBy segment) ∧
          e = .unknownWord .segment segment) := by
  unfold ofWords
  rcases Pair.ofWord_cases pair with ⟨hbad, hpair⟩ | ⟨hgood, p, hpair⟩
  · simp [hpair, hbad, bind, Except.bind, eq_comm]
  · have hsegment : Segment.ofWord segment = .error e ↔
        (∀ s : Segment, ¬s.NamedBy segment) ∧ e = .unknownWord .segment segment :=
      Vocabulary.lookup_eq_error_iff
    cases hword : Segment.ofWord segment with
    | error e' =>
      rw [hword] at hsegment
      simpa [hpair, hgood, bind, Except.bind] using hsegment
    | ok s =>
      rw [hword] at hsegment
      simpa [hpair, hgood, bind, Except.bind, pure, Except.pure] using hsegment

theorem Respelt.ofWords_iff (h : Respelt exchange pair segment exchange' pair' segment') :
    ofWords exchange pair segment = .ok key ↔ ofWords exchange' pair' segment' = .ok key := by
  obtain ⟨s, hs, hs'⟩ := h.segment
  have hparts (p : Pair) (s : Segment) : ofParts exchange p s = ofParts exchange' p s := by
    simp only [ofParts, Text.toLower, Text.trim, String.toList_ofList,
      Text.lower_casing.of_variants h.exchange]
  rw [← Segment.ofWord_eq_ok_iff] at hs hs'
  simp only [ofWords_eq_ok_iff, h.pair.ofWord_iff, hs, hs', hparts]

/-- The words that name a key spell it, and so does every other spelling of words that do.
Words spell a key unless the pair has no delimiter or a blank currency, or the segment has
no alias like the word for it; the pair is reported if both are bad. -/
theorem ofWords_spellings (exchange pair segment : String) :
    (∀ key, ofWords exchange pair segment = .ok key →
        ofWords key.exchange key.pair.text key.segment.name = .ok key) ∧
      (∀ exchange' pair' segment', Respelt exchange pair segment exchange' pair' segment' →
        ∀ key, ofWords exchange pair segment = .ok key ↔
          ofWords exchange' pair' segment' = .ok key) ∧
      (∀ e, ofWords exchange pair segment = .error e ↔
        (Pair.Unreadable pair ∧ e = .invalidPair pair) ∨
          (¬Pair.Unreadable pair ∧ (∀ s : Segment, ¬s.NamedBy segment) ∧
            e = .unknownWord .segment segment)) :=
  ⟨fun _ h => ofWords_name h, fun _ _ _ h _ => h.ofWords_iff, fun _ => ofWords_eq_error_iff⟩

/-- A letter that has two in upper case, and a quote currency with delimiters of its own. -/
theorem ofWords_strasse :
    ofWords " KRAKEN\u00a0" "Strasse\t/ USD_t/x " " Perpetual_SWAP" =
      .ok ⟨"kraken", ⟨"STRASSE", "USD_T/X"⟩, .perpetualSwap⟩ := by
  have hexchange : Variants lowerChars "Kraken".toList " KRAKEN\u00a0".toList :=
    ⟨"Kraken".toList, "KRAKEN".toList, ⟨[], [], by decide⟩, ⟨[' '], ['\u00a0'], by decide⟩,
      by decide +kernel⟩
  have hbase : Variants upperChars "straße".toList "Strasse\t".toList :=
    ⟨"straße".toList, "Strasse".toList, ⟨[], [], by decide⟩, ⟨[], ['\t'], by decide⟩,
      by decide +kernel⟩
  have hquote : Variants upperChars "usd_t/x".toList " USD_t/x ".toList :=
    ⟨"usd_t/x".toList, "USD_t/x".toList, ⟨[], [], by decide⟩, ⟨[' '], [' '], by decide⟩,
      by decide +kernel⟩
  have hsplit : Pair.Split "straße-usd_t/x" "straße".toList "usd_t/x".toList :=
    ⟨by simp [Pair.isDelimiter], '-', by decide, by decide⟩
  have hpair : Pair.Respelt "straße-usd_t/x" "Strasse\t/ USD_t/x " :=
    ⟨_, _, _, '/', _, hsplit, by decide, by decide, hbase, hquote⟩
  have hsegment : ∃ s : Segment, s.NamedBy "perp" ∧ s.NamedBy " Perpetual_SWAP" :=
    ⟨.perpetualSwap, ⟨"perp", by decide⟩, ⟨"perpetual_swap", by decide⟩⟩
  have hkey : ofWords "Kraken" "straße-usd_t/x" "perp" =
      .ok ⟨"kraken", ⟨"STRASSE", "USD_T/X"⟩, .perpetualSwap⟩ := by decide +kernel
  exact ((ofWords_spellings "Kraken" "straße-usd_t/x" "perp").2.1 _ _ _
    ⟨hexchange, hpair, hsegment⟩ _).mp hkey

end Key

end MarketDepth
