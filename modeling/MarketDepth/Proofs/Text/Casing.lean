/-
MarketDepth/Proofs/Text/Casing.lean

What case mappings make.

A text that is in one case stays as it is when it is brought into that case again: a map
leaves alone what it makes.  Nor does it make blanks, or other code points that have to be
kept out of a text, where there were none.  Both are checked on the tables of a map, as
what its runs and expansions make is apart from what they move (`CaseMap.Settled`).

Main results: `Text.upperChars_upperChars`, `Text.lowerChars_lowerChars`, and
`Text.recased_upperChars` and `Text.recased_lowerChars` for the blanks.
-/
import MarketDepth.Proofs.Text.Trim
import MarketDepth.Text.Case.Lower
import MarketDepth.Text.Case.Upper

namespace MarketDepth.Text

/-! ### Stretches -/

/-- Code points from one to another; or those at an even distance from the first only. -/
structure Stretch where
  first : Nat
  last : Nat
  even : Bool

namespace Stretch

/-- A single code point. -/
def point (n : Nat) : Stretch := ⟨n, n, true⟩

instance : Membership Nat Stretch where
  mem s n := s.first ≤ n ∧ n ≤ s.last ∧ (s.even → (n - s.first) % 2 = 0)

variable {s s' : Stretch} {n : Nat}

theorem mem_point (n : Nat) : n ∈ point n :=
  ⟨Nat.le_refl n, Nat.le_refl n, fun _ => by rw [point, Nat.sub_self]⟩

/-- One of the two ends before the other one begins, or they alternate. -/
def apart (s s' : Stretch) : Bool :=
  Nat.blt s.last s'.first || Nat.blt s'.last s.first ||
    (s.even && s'.even && (s.first + s'.first) % 2 == 1)

theorem not_mem_of_apart (h : s.apart s') (hn : n ∈ s) : n ∉ s' := by
  intro hn'
  obtain ⟨hfirst, hlast, heven⟩ := hn
  obtain ⟨hfirst', hlast', heven'⟩ := hn'
  simp only [apart, Bool.or_eq_true, Bool.and_eq_true, Nat.blt_eq, beq_iff_eq] at h
  rcases h with (h | h) | ⟨⟨hs, hs'⟩, hodd⟩
  · omega
  · omega
  · have hdistance := heven hs
    have hdistance' := heven' hs'
    omega

/-- All of the code points stand for characters. -/
def valid (s : Stretch) : Bool :=
  Nat.blt s.last 0xd800 || (Nat.blt 0xdfff s.first && Nat.blt s.last 0x110000)

theorem isValidChar_of_valid (h : s.valid) (hn : n ∈ s) : n.isValidChar := by
  obtain ⟨hfirst, hlast, -⟩ := hn
  simp only [valid, Bool.or_eq_true, Bool.and_eq_true, Nat.blt_eq] at h
  rcases h with h | ⟨hlow, hhigh⟩
  · exact .inl (by omega)
  · exact .inr ⟨by omega, by omega⟩

end Stretch

/-- The ranges as stretches. -/
def Ranges.stretches (rs : Ranges) : List Stretch := rs.map fun r => ⟨r.1, r.2, false⟩

theorem Ranges.exists_stretch {rs : Ranges} {c : Char} (h : rs.contains c) :
    ∃ s ∈ rs.stretches, c.toNat ∈ s := by
  simp only [contains, List.any_eq_true, Bool.and_eq_true, decide_eq_true_eq] at h
  obtain ⟨r, hr, hfirst, hlast⟩ := h
  refine ⟨_, List.mem_map_of_mem hr, hfirst, hlast, ?_⟩
  rintro ⟨⟩

/-! ### Runs -/

namespace CaseRun

variable {r : CaseRun} {n t : Nat}

/-- The run moves every second code point, or only one. -/
def even (r : CaseRun) : Bool := r.step % 2 == 0 || r.first == r.last

/-- What the run moves. -/
def source (r : CaseRun) : Stretch := ⟨r.first, r.last, r.even⟩

/-- What the run makes of it. -/
def image (r : CaseRun) : Stretch := ⟨r.target, r.target + (r.last - r.first), r.even⟩

theorem distance_even (hfirst : r.first ≤ n) (hlast : n ≤ r.last)
    (hstep : (n - r.first) % r.step = 0) (heven : r.even) : (n - r.first) % 2 = 0 := by
  simp only [even, Bool.or_eq_true, beq_iff_eq] at heven
  rcases heven with heven | hsingle
  · have htwo : 2 ∣ r.step := Nat.dvd_of_mod_eq_zero heven
    exact Nat.mod_eq_zero_of_dvd (Nat.dvd_trans htwo (Nat.dvd_of_mod_eq_zero hstep))
  · have hsame : n - r.first = 0 := by omega
    rw [hsame]

theorem mem_of_map? (h : r.map? n = some t) : n ∈ r.source ∧ t ∈ r.image := by
  unfold map? at h
  split at h
  · next hrun =>
    obtain ⟨hfirst, hlast, hstep⟩ := hrun
    obtain rfl := Option.some.inj h
    refine ⟨⟨hfirst, hlast, distance_even hfirst hlast hstep⟩, ?_⟩
    refine ⟨Nat.le_add_right _ _, Nat.add_le_add_left (Nat.sub_le_sub_right hlast _) _, ?_⟩
    intro heven
    rw [image, Nat.add_sub_cancel_left]
    exact distance_even hfirst hlast hstep heven
  · cases h

end CaseRun

/-! ### Maps -/

namespace CaseMap

variable {m : CaseMap} {shunned : List Stretch} {c d : Char} {n : Nat}

/-- What the map moves. -/
def moved (m : CaseMap) : List Stretch :=
  m.runs.map CaseRun.source ++ m.expansions.map fun e => .point e.1

/-- What the map makes of it. -/
def made (m : CaseMap) : List Stretch :=
  m.runs.map CaseRun.image ++ (m.expansions.flatMap (·.2)).map Stretch.point

/-- The map makes characters that it does not move, and none of those that are shunned; and
it makes at least one of each. -/
def Settled (m : CaseMap) (shunned : List Stretch) : Prop :=
  ((m.made.all fun s => s.valid && (m.moved ++ shunned).all s.apart) &&
    m.expansions.all fun e => !e.2.isEmpty) = true

instance : Decidable (m.Settled shunned) := inferInstanceAs (Decidable (_ = true))

/-- What is not moved stays. -/
theorem apply_of_not_moved (h : ∀ s ∈ m.moved, c.toNat ∉ s) : m.apply c = [c] := by
  have hexpansion : m.expansions.lookup c.toNat = none := by
    rw [List.lookup_eq_none_iff]
    intro e he
    rw [bne_iff_ne]
    intro hc
    refine h (.point e.1) (List.mem_append_right _ (List.mem_map_of_mem he)) ?_
    rw [hc]
    exact Stretch.mem_point e.1
  have hrun : m.runs.findSome? (·.map? c.toNat) = none := by
    rw [List.findSome?_eq_none_iff]
    intro r hr
    cases hmap : r.map? c.toNat with
    | none => rfl
    | some t =>
      have hsource := (CaseRun.mem_of_map? hmap).1
      exact absurd hsource (h r.source (List.mem_append_left _ (List.mem_map_of_mem hr)))
  rw [apply, hexpansion, hrun]
  simp [Char.ofNat_toNat]

/-- What is moved becomes something that the map makes. -/
theorem apply_cases (h : m.Settled shunned) (c : Char) :
    m.apply c = [c] ∨ (m.apply c ≠ [] ∧ ∀ d ∈ m.apply c, ∃ s ∈ m.made, d.toNat ∈ s) := by
  rw [Settled, Bool.and_eq_true, List.all_eq_true, List.all_eq_true] at h
  obtain ⟨hmade, hexpansions⟩ := h
  have hofNat : ∀ s ∈ m.made, ∀ n ∈ s, (Char.ofNat n).toNat = n := by
    intro s hs n hn
    have hvalid := (Bool.and_eq_true_iff.mp (hmade s hs)).1
    rw [Char.ofNat, dif_pos (Stretch.isValidChar_of_valid hvalid hn)]
    rfl
  unfold apply
  cases hlookup : m.expansions.lookup c.toNat with
  | some ns =>
    -- an expansion makes all of its characters
    obtain ⟨before, after, hsplit, -⟩ := List.lookup_eq_some_iff.mp hlookup
    have hmem : (c.toNat, ns) ∈ m.expansions := by simp [hsplit]
    refine .inr ⟨?_, ?_⟩
    · simpa using hexpansions _ hmem
    · intro d hd
      obtain ⟨n, hn, rfl⟩ := List.mem_map.mp hd
      have hpoint : Stretch.point n ∈ m.made :=
        List.mem_append_right _ (List.mem_map_of_mem (List.mem_flatMap.mpr ⟨_, hmem, hn⟩))
      refine ⟨.point n, hpoint, ?_⟩
      rw [hofNat _ hpoint n (Stretch.mem_point n)]
      exact Stretch.mem_point n
  | none =>
    cases hrun : m.runs.findSome? (·.map? c.toNat) with
    | none =>
      left
      simp [Char.ofNat_toNat]
    | some t =>
      -- and the first run that moves the character makes one
      obtain ⟨r, hr, hmap⟩ := List.exists_of_findSome?_eq_some hrun
      have himage : r.image ∈ m.made := List.mem_append_left _ (List.mem_map_of_mem hr)
      have ht := (CaseRun.mem_of_map? hmap).2
      refine .inr ⟨List.cons_ne_nil _ _, ?_⟩
      intro d hd
      obtain rfl := List.mem_singleton.mp hd
      refine ⟨r.image, himage, ?_⟩
      rw [Option.getD_some, hofNat _ himage t ht]
      exact ht

namespace Settled

theorem apply_ne_nil (h : m.Settled shunned) (c : Char) : m.apply c ≠ [] := by
  obtain hsame | ⟨hne, -⟩ := apply_cases h c
  · rw [hsame]
    exact List.cons_ne_nil c []
  · exact hne

/-- What the map makes is apart from what it moves, and from what is shunned. -/
theorem not_mem (h : m.Settled shunned) {s s' : Stretch} (hs : s ∈ m.made)
    (hs' : s' ∈ m.moved ++ shunned) (hn : n ∈ s) : n ∉ s' := by
  rw [Settled, Bool.and_eq_true, List.all_eq_true] at h
  have hapart := (Bool.and_eq_true_iff.mp (h.1 s hs)).2
  exact Stretch.not_mem_of_apart (List.all_eq_true.mp hapart s' hs') hn

/-- The map leaves alone what it makes. -/
theorem apply_of_mem_apply (h : m.Settled shunned) (hd : d ∈ m.apply c) : m.apply d = [d] := by
  obtain hsame | ⟨-, hmade⟩ := apply_cases h c
  · rw [hsame] at hd
    rw [List.mem_singleton.mp hd]
    exact hsame
  · obtain ⟨s, hs, hn⟩ := hmade d hd
    exact apply_of_not_moved fun s' hs' => h.not_mem hs (List.mem_append_left _ hs') hn

/-- The map makes nothing that is shunned, if it was not there before. -/
theorem eq_of_mem_shunned (h : m.Settled shunned) (hd : d ∈ m.apply c) {s : Stretch}
    (hs : s ∈ shunned) (hmem : d.toNat ∈ s) : d = c := by
  obtain hsame | ⟨-, hmade⟩ := apply_cases h c
  · rw [hsame] at hd
    exact List.mem_singleton.mp hd
  · obtain ⟨s', hs', hn⟩ := hmade d hd
    exact absurd hmem (h.not_mem hs' (List.mem_append_right _ hs) hn)

/-- If blanks are shunned, the map makes a blank only of itself. -/
theorem eq_of_isBlank (h : m.Settled (shunned ++ blankRanges.stretches)) (hd : d ∈ m.apply c)
    (hblank : isBlank d) : d = c := by
  obtain ⟨s, hs, hmem⟩ := Ranges.exists_stretch hblank
  exact h.eq_of_mem_shunned hd (List.mem_append_right _ hs) hmem

end Settled

end CaseMap

/-! ### Texts -/

/-- The second text has for every character of the first one some of its own, and among
these a blank only where there was one. -/
inductive Recased : List Char → List Char → Prop
  | nil : Recased [] []
  | cons {c : Char} {piece cs ds : List Char} (nonempty : piece ≠ [])
      (blanks : ∀ d ∈ piece, isBlank d → d = c) (rest : Recased cs ds) :
      Recased (c :: cs) (piece ++ ds)

namespace Recased

variable {cs ds : List Char}

theorem eq_nil_iff (h : Recased cs ds) : ds = [] ↔ cs = [] := by
  cases h with
  | nil => exact Iff.rfl
  | cons nonempty => simp [nonempty]

/-- A character of a piece is not blank if the one that it stands for is not. -/
theorem isBlank_of_mem {c : Char} {piece : List Char} (blanks : ∀ d ∈ piece, isBlank d → d = c)
    (hc : isBlank c = false) : ∀ d ∈ piece, isBlank d = false := by
  intro d hd
  by_contra hblank
  rw [Bool.not_eq_false] at hblank
  rw [blanks d hd hblank, hc] at hblank
  cases hblank

theorem front (h : Recased cs ds) (hfront : ∀ c ∈ cs.head?, isBlank c = false) :
    ∀ d ∈ ds.head?, isBlank d = false := by
  cases h with
  | nil => exact hfront
  | cons nonempty blanks rest =>
    obtain ⟨d, piece, rfl⟩ := List.exists_cons_of_ne_nil nonempty
    rintro _ ⟨⟩
    exact isBlank_of_mem blanks (hfront _ rfl) d List.mem_cons_self

theorem back (h : Recased cs ds) (hback : ∀ c ∈ cs.getLast?, isBlank c = false) :
    ∀ d ∈ ds.getLast?, isBlank d = false := by
  induction h with
  | nil => exact hback
  | @cons c piece cs ds nonempty blanks rest ih =>
    intro d hd
    rw [Option.mem_def, List.getLast?_append] at hd
    cases hlast : ds.getLast? with
    | none =>
      -- the last character is one of the last piece
      have hcs : cs = [] := rest.eq_nil_iff.mp (List.getLast?_eq_none_iff.mp hlast)
      rw [hlast, Option.none_or] at hd
      rw [hcs] at hback
      exact isBlank_of_mem blanks (hback c rfl) d (List.mem_of_getLast? hd)
    | some e =>
      have hne : cs ≠ [] := by
        intro hcs
        rw [rest.eq_nil_iff.mpr hcs] at hlast
        cases hlast
      obtain ⟨c', cs, rfl⟩ := List.exists_cons_of_ne_nil hne
      rw [hlast, Option.some_or] at hd
      rw [List.getLast?_cons_cons] at hback
      exact ih hback d (hlast.trans hd)

/-- No blank comes to the ends. -/
theorem trimmed (h : Recased cs ds) (hcs : Trimmed cs) : Trimmed ds :=
  ⟨h.front hcs.front, h.back hcs.back⟩

end Recased

/-! ### Upper case -/

/-- What parts the currencies of a pair. -/
def delimiters : List Stretch := ['-', '/', '_'].map fun c => .point c.toNat

/-- Upper case makes neither blanks nor what parts the currencies of a pair. -/
theorem upperMap_settled : upperMap.Settled (delimiters ++ blankRanges.stretches) := by
  decide +kernel

theorem recased_upperChars (cs : List Char) : Recased cs (upperChars cs) := by
  induction cs with
  | nil => exact .nil
  | cons c cs ih =>
    rw [upperChars, List.flatMap_cons]
    exact .cons (upperMap_settled.apply_ne_nil c) (fun d => upperMap_settled.eq_of_isBlank) ih

/-- Upper case in upper case stays. -/
theorem upperChars_upperChars (cs : List Char) : upperChars (upperChars cs) = upperChars cs := by
  refine (List.flatMap_congr ?_).trans (List.flatMap_singleton' _)
  intro d hd
  obtain ⟨c, -, hd⟩ := List.mem_flatMap.mp hd
  exact upperMap_settled.apply_of_mem_apply hd

/-- Upper case has a delimiter only where there was one. -/
theorem mem_of_mem_upperChars {cs : List Char} {c : Char} (hc : c ∈ ['-', '/', '_'])
    (h : c ∈ upperChars cs) : c ∈ cs := by
  obtain ⟨b, hb, hmade⟩ := List.mem_flatMap.mp h
  have hdelimiter : Stretch.point c.toNat ∈ delimiters := List.mem_map_of_mem hc
  have hsame := upperMap_settled.eq_of_mem_shunned hmade (List.mem_append_left _ hdelimiter)
    (Stretch.mem_point _)
  rwa [hsame]

/-! ### Lower case -/

/-- Lower case leaves the character alone wherever it stands. -/
def Lowered (c : Char) : Prop := c ≠ 'Σ' ∧ lowerMap.apply c = [c]

/-- Lower case makes neither blanks nor the capital whose neighbours matter. -/
theorem lowerMap_settled :
    lowerMap.Settled ([.point 'Σ'.toNat] ++ blankRanges.stretches) := by
  decide +kernel

theorem lowered_sigma : Lowered 'σ' ∧ Lowered 'ς' := by
  refine ⟨⟨?_, ?_⟩, ?_, ?_⟩ <;> decide +kernel

/-- One character after the other, and each of them has a piece of its own. -/
theorem lowerAfter_cons (before : List Char) (c : Char) (rest : List Char) :
    ∃ piece, lowerAfter before (c :: rest) = piece ++ lowerAfter (c :: before) rest ∧
      piece ≠ [] ∧ ∀ d ∈ piece, Lowered d ∧ (isBlank d → d = c) := by
  refine ⟨_, rfl, ?_⟩
  split
  · have hblank : isBlank 'σ' = false ∧ isBlank 'ς' = false := by decide
    split
    · refine ⟨List.cons_ne_nil _ _, ?_⟩
      simp [lowered_sigma, hblank]
    · refine ⟨List.cons_ne_nil _ _, ?_⟩
      simp [lowered_sigma, hblank]
  · next hsigma =>
    refine ⟨lowerMap_settled.apply_ne_nil c, ?_⟩
    intro d hd
    refine ⟨⟨?_, lowerMap_settled.apply_of_mem_apply hd⟩, lowerMap_settled.eq_of_isBlank hd⟩
    rintro rfl
    exact hsigma (lowerMap_settled.eq_of_mem_shunned hd List.mem_cons_self
      (Stretch.mem_point _)).symm

theorem recased_lowerAfter (before cs : List Char) : Recased cs (lowerAfter before cs) := by
  induction cs generalizing before with
  | nil => exact .nil
  | cons c rest ih =>
    obtain ⟨piece, hcons, hne, hpiece⟩ := lowerAfter_cons before c rest
    rw [hcons]
    exact .cons hne (fun d hd => (hpiece d hd).2) (ih (c :: before))

theorem recased_lowerChars (cs : List Char) : Recased cs (lowerChars cs) :=
  recased_lowerAfter [] cs

theorem lowered_lowerAfter (before cs : List Char) : ∀ d ∈ lowerAfter before cs, Lowered d := by
  induction cs generalizing before with
  | nil => simp [lowerAfter]
  | cons c rest ih =>
    obtain ⟨piece, hcons, -, hpiece⟩ := lowerAfter_cons before c rest
    rw [hcons]
    intro d hd
    rcases List.mem_append.mp hd with hd | hd
    · exact (hpiece d hd).1
    · exact ih (c :: before) d hd

theorem lowerAfter_of_lowered (before : List Char) {cs : List Char} (h : ∀ c ∈ cs, Lowered c) :
    lowerAfter before cs = cs := by
  induction cs generalizing before with
  | nil => rfl
  | cons c rest ih =>
    obtain ⟨⟨hsigma, hsame⟩, hrest⟩ := List.forall_mem_cons.mp h
    simp only [lowerAfter, if_neg hsigma, hsame, ih (c :: before) hrest, List.singleton_append]

/-- Lower case in lower case stays. -/
theorem lowerChars_lowerChars (cs : List Char) : lowerChars (lowerChars cs) = lowerChars cs :=
  lowerAfter_of_lowered [] (lowered_lowerAfter [] cs)

end MarketDepth.Text
