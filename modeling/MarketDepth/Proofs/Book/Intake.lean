/-
MarketDepth/Proofs/Book/Intake.lean

The levels that a snapshot brings into a book.

A verified book takes the levels of a snapshot as they stand, and takes them only
if they are in strict order, positive, and bear no number twice
(`Levels.check_eq_ok_iff`).  Any other book arranges them first; what it then holds
is in strict order and positive too (`Levels.arrange_sound`), but the numbers are
not looked at: what came once is held once, and what came twice may be held twice.
-/
import MarketDepth.Proofs.Ladder.Ids
import MarketDepth.Proofs.Ladder.Sound

namespace MarketDepth

namespace Levels

variable {side : Side} {levels : List Level} {l : Level}

theorem positive_iff : l.Positive ↔ ¬l.price ≤ .zero ∧ ¬l.amount ≤ .zero :=
  and_congr Int.not_le.symm Int.not_le.symm

/-! ### Checking -/

/-- One step of the check: a level passes if it is positive, its number was not met
before, and it stands behind the level before. -/
theorem checkFrom_cons {index : Nat} {seen : List Int} {previous : Option Decimal} :
    checkFrom side index seen previous (l :: levels) = .ok () ↔
      l.Positive ∧ (∀ id ∈ l.id, id ∉ seen) ∧ (∀ p ∈ previous, side.Ahead p l.price) ∧
        checkFrom side (index + 1) (l.id.toList ++ seen) (some l.price) levels = .ok () := by
  have hid : l.id.filter (seen.contains ·) = none ↔ ∀ id ∈ l.id, id ∉ seen := by
    simp [Option.filter_eq_none_iff]
  have hprevious : previous.filter (¬side.Ahead · l.price) = none ↔
      ∀ p ∈ previous, side.Ahead p l.price := by
    simp [Option.filter_eq_none_iff]
  rw [checkFrom, positive_iff, ← hid, ← hprevious]
  split
  · next hprice => simp [hprice]
  · next hprice =>
    split
    · next hamount => simp [hamount]
    · next hamount =>
      cases l.id.filter (seen.contains ·) with
      | some id => simp
      | none =>
        cases previous.filter (¬side.Ahead · l.price) with
        | some p =>
          dsimp only
          split <;> simp
        | none => simp [hprice, hamount]

theorem checkFrom_eq_ok_iff {index : Nat} {seen : List Int} {previous : Option Decimal} :
    checkFrom side index seen previous levels = .ok () ↔
      Sound side levels ∧ DistinctIds levels ∧ (∀ id ∈ ids levels, id ∉ seen) ∧
        ∀ p ∈ previous, ∀ x ∈ levels, side.Ahead p x.price := by
  induction levels generalizing index seen previous with
  | nil => simp [checkFrom, Sound.nil, DistinctIds, ids]
  | cons l levels ih =>
    rw [checkFrom_cons, ih, sound_cons, distinctIds_cons, ids_cons]
    constructor
    · rintro ⟨hl, hfresh, hprevious, hsound, hdistinct, hids, hahead⟩
      have hahead : ∀ x ∈ levels, side.Ahead l.price x.price := hahead l.price rfl
      refine ⟨⟨hl, hahead, hsound⟩, ⟨?_, hdistinct⟩, ?_, ?_⟩
      · intro i hi hmem
        exact hids i hmem (List.mem_append_left seen (Option.mem_toList.mpr hi))
      · intro i hi
        rcases List.mem_append.mp hi with hi | hi
        · exact hfresh i (Option.mem_toList.mp hi)
        · intro hseen
          exact hids i hi (List.mem_append_right _ hseen)
      · intro p hp x hx
        rcases List.mem_cons.mp hx with rfl | hx
        · exact hprevious p hp
        · exact (hprevious p hp).trans (hahead x hx)
    · rintro ⟨⟨hl, hahead, hsound⟩, ⟨hnew, hdistinct⟩, hids, hprevious⟩
      refine ⟨hl, ?_, ?_, hsound, hdistinct, ?_, ?_⟩
      · intro i hi
        exact hids i (List.mem_append_left _ (Option.mem_toList.mpr hi))
      · intro p hp
        exact hprevious p hp l List.mem_cons_self
      · intro i hi hmem
        rcases List.mem_append.mp hmem with hmem | hmem
        · exact hnew i (Option.mem_toList.mp hmem) hi
        · exact hids i (List.mem_append_right _ hi) hmem
      · intro p hp x hx
        obtain rfl := Option.some.inj hp
        exact hahead x hx

/-- The check passes levels in strict order, positive, and with no number twice. -/
theorem check_eq_ok_iff : check side levels = .ok () ↔ Sound side levels ∧ DistinctIds levels := by
  rw [check, checkFrom_eq_ok_iff]
  simp

/-! ### Sorting out -/

theorem mergeSame_sublist (levels : List Level) : (mergeSame levels).Sublist levels := by
  fun_induction mergeSame levels with
  | case1 a b rest _ ih => exact ih.cons a
  | case2 a b rest _ ih => exact ih.cons_cons a
  | case3 levels => exact .refl levels

/-- Of levels in order, the first one stands ahead of all others if it is not at one price
with the next. -/
theorem ahead_of_ne_next {a b : Level} {rest : List Level}
    (h : (a :: b :: rest).Pairwise fun a b => ¬side.Ahead b.price a.price)
    (hne : ¬a.price ≈ b.price) : ∀ x ∈ b :: rest, side.Ahead a.price x.price := by
  obtain ⟨ha, hrest⟩ := List.pairwise_cons.mp h
  have hab : side.Ahead a.price b.price :=
    Side.ahead_of_not_ahead (ha b List.mem_cons_self) fun he => hne (Setoid.symm he)
  intro x hx
  rcases List.mem_cons.mp hx with rfl | hx
  · exact hab
  · exact hab.trans_not ((List.pairwise_cons.mp hrest).1 x hx)

/-- Once neighbours at one price are merged, levels in order are in strict order. -/
theorem mergeSame_ordered (h : levels.Pairwise fun a b => ¬side.Ahead b.price a.price) :
    Ordered side (mergeSame levels) := by
  fun_induction mergeSame levels with
  | case1 a b rest _ ih => exact ih (List.pairwise_cons.mp h).2
  | case2 a b rest hne ih =>
    refine List.pairwise_cons.mpr ⟨?_, ih (List.pairwise_cons.mp h).2⟩
    intro x hx
    exact ahead_of_ne_next h hne x ((mergeSame_sublist _).subset hx)
  | case3 levels hshort =>
    match levels, hshort with
    | [], _ => exact .nil
    | [a], _ => exact List.pairwise_singleton _ a
    | a :: b :: rest, hshort => exact (hshort a b rest rfl).elim

/-! The order that levels are sorted in, where levels at one price are tied. -/

theorem sorting_trans (side : Side) (a b c : Level) (hab : !side.Ahead b.price a.price)
    (hbc : !side.Ahead c.price b.price) : !side.Ahead c.price a.price := by
  simp only [Bool.not_eq_true', decide_eq_false_iff_not] at hab hbc ⊢
  exact fun hca => hbc (hca.trans_not hab)

theorem sorting_total (side : Side) (a b : Level) :
    !side.Ahead b.price a.price || !side.Ahead a.price b.price := by
  by_cases h : side.Ahead b.price a.price
  · simp [h.asymm]
  · simp [h]

theorem mergeSort_pairwise (side : Side) (levels : List Level) :
    (levels.mergeSort fun a b => !side.Ahead b.price a.price).Pairwise
      fun a b => ¬side.Ahead b.price a.price := by
  refine (List.pairwise_mergeSort (sorting_trans side) (sorting_total side) levels).imp ?_
  intro a b hab
  simpa using hab

theorem arrange_sound (side : Side) (levels : List Level) : Sound side (arrange side levels) where
  ordered := mergeSame_ordered (mergeSort_pairwise side _)
  positive := by
    intro l hl
    have hmem := (mergeSame_sublist _).subset hl
    rw [List.mem_mergeSort] at hmem
    exact of_decide_eq_true (List.mem_filter.mp hmem).2

/-- Sorting out brings no number that did not come, and none twice that came once. -/
theorem arrange_distinctIds (side : Side) (h : DistinctIds levels) :
    DistinctIds (arrange side levels) := by
  have hpositive : DistinctIds (levels.filter (·.Positive)) := h.sublist List.filter_sublist
  refine DistinctIds.sublist ?_ (mergeSame_sublist _)
  exact ((List.mergeSort_perm _ _).filterMap _).nodup_iff.mpr hpositive

theorem mergeSame_of_ordered (h : Ordered side levels) : mergeSame levels = levels := by
  fun_induction mergeSame levels with
  | case1 a b rest he _ =>
    have hahead := (List.pairwise_cons.mp h).1 b List.mem_cons_self
    exact absurd he hahead.not_equiv
  | case2 a b rest _ ih => rw [ih (List.pairwise_cons.mp h).2]
  | case3 levels => rfl

/-- Levels that are in strict order and positive already stay as they are. -/
theorem arrange_of_sound (h : Sound side levels) : arrange side levels = levels := by
  have hpositive : levels.filter (·.Positive) = levels :=
    List.filter_eq_self.mpr fun l hl => decide_eq_true (h.positive l hl)
  have hsorted : levels.Pairwise fun a b => !side.Ahead b.price a.price :=
    h.ordered.imp fun hab => by simpa using hab.asymm
  rw [arrange, hpositive, List.mergeSort_of_pairwise hsorted, mergeSame_of_ordered h.ordered]

end Levels

/-! ### Into the book -/

namespace Book

variable {b : Book} {side : Side} {bids asks bids' asks' levels levels' : List Level}

theorem intake_of_verified (hverify : b.options.verify = true) :
    b.intake side levels = (Levels.check side levels).map fun _ => levels := by
  rw [intake, if_pos hverify]

theorem intake_of_unverified (hverify : b.options.verify = false) :
    b.intake side levels = .ok (Levels.arrange side levels) := by
  rw [intake, hverify]
  rfl

theorem intakeSides_ok (h : b.intakeSides bids asks = .ok (bids', asks')) :
    b.intake .bid bids = .ok bids' ∧ b.intake .ask asks = .ok asks' := by
  unfold intakeSides at h
  cases hbids : b.intake .bid bids with
  | error fault => simp [hbids, bind, Except.bind] at h
  | ok x =>
    cases hasks : b.intake .ask asks with
    | error fault => simp [hbids, hasks, bind, Except.bind] at h
    | ok y =>
      simp only [hbids, hasks, bind, Except.bind] at h
      split at h
      · cases hc : checkUncrossed x y with
        | error fault => simp [hc] at h
        | ok u =>
          simp only [hc, pure, Except.pure, Except.ok.injEq, Prod.mk.injEq] at h
          exact ⟨congrArg _ h.1, congrArg _ h.2⟩
      · simp only [pure, Except.pure, Except.ok.injEq, Prod.mk.injEq] at h
        exact ⟨congrArg _ h.1, congrArg _ h.2⟩

/-- A book that is not verified refuses no snapshot. -/
theorem intakeSides_of_unverified (hverify : b.options.verify = false) :
    b.intakeSides bids asks = .ok (Levels.arrange .bid bids, Levels.arrange .ask asks) := by
  unfold intakeSides
  rw [intake_of_unverified hverify, intake_of_unverified hverify, hverify]
  rfl

/-- A verified book takes the levels as they are. -/
theorem eq_of_checked (hverify : b.options.verify = true)
    (h : b.intake side levels = .ok levels') :
    levels' = levels ∧ Levels.check side levels = .ok () := by
  rw [intake_of_verified hverify] at h
  cases hcheck : Levels.check side levels with
  | error fault =>
    rw [hcheck] at h
    cases h
  | ok u =>
    rw [hcheck] at h
    exact ⟨(Except.ok.inj h).symm, rfl⟩

/-- A verified book holds only levels that passed the check. -/
theorem intake_checked (hverify : b.options.verify = true)
    (h : b.intake side levels = .ok levels') :
    Levels.Sound side levels' ∧ Levels.DistinctIds levels' := by
  obtain ⟨rfl, hcheck⟩ := eq_of_checked hverify h
  exact Levels.check_eq_ok_iff.mp hcheck

theorem intake_sound (h : b.intake side levels = .ok levels') : Levels.Sound side levels' := by
  cases hverify : b.options.verify with
  | true => exact (intake_checked hverify h).1
  | false =>
    rw [intake_of_unverified hverify] at h
    obtain rfl := Except.ok.inj h
    exact Levels.arrange_sound side levels

end Book

end MarketDepth
