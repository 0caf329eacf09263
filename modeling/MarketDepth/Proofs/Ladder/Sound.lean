/-
MarketDepth/Proofs/Ladder/Sound.lean

Ladders in order, with positive levels.

A ladder is sound if its levels stand in strict order and each of them has a
positive price and a positive amount.  Every edit by an action that passes the
check keeps this (`Ladder.Edit.sound`): taking levels away does no harm, and a
level is written only at the place of its price, with an amount that is neither
negative, by the check, nor zero, because that takes the level away.
-/
import MarketDepth.Proofs.Ladder.Edits

namespace MarketDepth

/-- Levels that may rest on one side of a book: in strict order, each of them
positive. -/
structure Levels.Sound (side : Side) (levels : List Level) : Prop where
  ordered : Levels.Ordered side levels
  positive : ∀ l ∈ levels, l.Positive

instance (side : Side) (levels : List Level) : Decidable (Levels.Sound side levels) :=
  decidable_of_iff (Levels.Ordered side levels ∧ ∀ l ∈ levels, l.Positive)
    ⟨fun h => ⟨h.1, h.2⟩, fun h => ⟨h.ordered, h.positive⟩⟩

namespace Levels.Sound

variable {side : Side} {levels levels' : List Level} {p : Place} {l : Level} {price : Decimal}

theorem nil (side : Side) : Sound side [] := ⟨.nil, by simp⟩

theorem sublist (h : Sound side levels) (hsub : levels'.Sublist levels) : Sound side levels' where
  ordered := h.ordered.sublist hsub
  positive x hx := h.positive x (hsub.subset hx)

/-- A positive level may be written at the place of its price. -/
theorem put (h : Sound side p.levels) (hplace : p.At side price) (hprice : l.price ≈ price)
    (hl : l.Positive) : Sound side (p.put l) where
  ordered := by
    have hcleared : Levels.Ordered side p.cleared := h.ordered.sublist p.cleared_sublist
    rw [Place.cleared, Levels.Ordered, List.pairwise_append] at hcleared
    obtain ⟨hahead, hbehind, hacross⟩ := hcleared
    rw [Place.put, Levels.Ordered, List.pairwise_append, List.pairwise_cons]
    refine ⟨hahead, ⟨?_, hbehind⟩, ?_⟩
    · intro x hx
      exact (Side.ahead_congr hprice (Setoid.refl _)).mpr (hplace.behind x hx)
    · intro x hx y hy
      rcases List.mem_cons.mp hy with rfl | hy
      · exact (Side.ahead_congr (Setoid.refl _) hprice).mpr (hplace.ahead x hx)
      · exact hacross x hx y hy
  positive := by
    intro x hx
    rcases Place.mem_put.mp hx with rfl | hx
    · exact hl
    · exact h.positive x (p.cleared_sublist.subset hx)

end Levels.Sound

theorem Levels.sound_cons {side : Side} {levels : List Level} {l : Level} :
    Sound side (l :: levels) ↔
      l.Positive ∧ (∀ x ∈ levels, side.Ahead l.price x.price) ∧ Sound side levels := by
  constructor
  · rintro ⟨hordered, hpositive⟩
    obtain ⟨hl, hlevels⟩ := List.forall_mem_cons.mp hpositive
    obtain ⟨hahead, hordered⟩ := List.pairwise_cons.mp hordered
    exact ⟨hl, hahead, hordered, hlevels⟩
  · rintro ⟨hl, hahead, hordered, hlevels⟩
    exact ⟨List.pairwise_cons.mpr ⟨hahead, hordered⟩, List.forall_mem_cons.mpr ⟨hl, hlevels⟩⟩

/-! ### Levels that changes may set -/

/-- A level that changes may set: its price is positive, and its amount is not
negative. -/
def Level.Settable (l : Level) : Prop := .zero < l.price ∧ .zero ≤ l.amount

theorem Level.Settable.positive {l : Level} (h : l.Settable) (hnonzero : ¬l.amount.IsZero) :
    l.Positive := by
  refine ⟨h.1, ?_⟩
  have hle : 0 ≤ l.amount.units := h.2
  rw [Decimal.isZero_iff_units] at hnonzero
  show 0 < l.amount.units
  omega

theorem Level.settable_iff {l : Level} : l.Settable ↔ ¬(l.price ≤ .zero ∨ l.amount < .zero) := by
  rw [not_or]
  exact and_congr Int.not_le.symm Int.not_lt.symm

theorem Action.Sets.level?_eq {c : Change} {level : Level} (h : c.action.Sets level) :
    c.level? = some level := by
  unfold Change.level?
  rcases h with h | h
  · rw [h]
  · rw [h]

theorem Change.sets_of_level?_eq {c : Change} {level : Level} (h : c.level? = some level) :
    c.action.Sets level := by
  obtain ⟨side, action⟩ := c
  cases action with
  | insert level' => exact .inl (congrArg _ (Option.some.inj h))
  | amend level' => exact .inr (congrArg _ (Option.some.inj h))
  | delete address => cases h

/-- The error names the level that may not be set. -/
theorem Change.check_eq_error_iff {c : Change} {e : BookError} :
    c.check = .error e ↔ ∃ level, c.action.Sets level ∧ ¬level.Settable ∧
      e = .invalidLevel c.side level.price level.amount := by
  constructor
  · intro h
    unfold check at h
    split at h
    · next level hlevel =>
      split at h
      · next hbad =>
        refine ⟨level, sets_of_level?_eq hlevel, ?_, (Except.error.inj h).symm⟩
        rwa [Level.settable_iff, Decidable.not_not]
      · cases h
    · cases h
  · rintro ⟨level, hsets, hbad, rfl⟩
    rw [Level.settable_iff, Decidable.not_not] at hbad
    unfold check
    rw [hsets.level?_eq]
    exact if_pos hbad

theorem Change.check_eq_ok_iff {c : Change} :
    c.check = .ok () ↔ ∀ level, c.action.Sets level → level.Settable := by
  cases h : c.check with
  | error e =>
    obtain ⟨level, hsets, hbad, -⟩ := check_eq_error_iff.mp h
    simp only [reduceCtorEq, false_iff]
    intro hvalid
    exact hbad (hvalid level hsets)
  | ok u =>
    simp only [true_iff]
    intro level hsets
    by_contra hbad
    have herror := check_eq_error_iff.mpr ⟨level, hsets, hbad, rfl⟩
    rw [h] at herror
    cases herror

theorem checkChanges_eq_ok_iff {cs : List Change} :
    checkChanges cs = .ok () ↔ ∀ c ∈ cs, c.check = .ok () := by
  induction cs with
  | nil => simp [checkChanges]
  | cons c rest ih =>
    rw [checkChanges, List.forall_mem_cons, ← ih]
    cases c.check <;> simp [Except.bind]

theorem checkChanges_append (cs ds : List Change) :
    checkChanges (cs ++ ds) = (checkChanges cs).bind fun _ => checkChanges ds := by
  induction cs with
  | nil => rfl
  | cons c rest ih =>
    rw [List.cons_append, checkChanges, checkChanges, ih]
    cases c.check <;> rfl

/-- The error is that of the first change that is not valid. -/
theorem checkChanges_eq_error_iff {cs : List Change} {e : BookError} :
    checkChanges cs = .error e ↔
      ∃ before c after, cs = before ++ c :: after ∧ checkChanges before = .ok () ∧
        c.check = .error e := by
  constructor
  · intro h
    induction cs with
    | nil => cases h
    | cons c rest ih =>
      rw [checkChanges] at h
      cases hc : c.check with
      | error e' =>
        rw [hc] at h
        exact ⟨[], c, rest, rfl, rfl, hc.trans h⟩
      | ok u =>
        rw [hc] at h
        obtain ⟨before, x, after, rfl, hbefore, hx⟩ := ih h
        refine ⟨c :: before, x, after, rfl, ?_, hx⟩
        rw [checkChanges, hc]
        exact hbefore
  · rintro ⟨before, c, after, rfl, hbefore, hc⟩
    rw [checkChanges_append, hbefore, checkChanges, hc]
    rfl

namespace Ladder

variable {l l' : Ladder} {addressing : Addressing} {action : Action} {level : Level}

/-- Levels are in strict order if each stands ahead of the next one. -/
theorem inOrder_iff {side : Side} {levels : List Level} :
    inOrder side levels ↔ Levels.Ordered side levels := by
  fun_induction inOrder side levels with
  | case1 a b rest ih =>
    rw [Bool.and_eq_true, decide_eq_true_eq, ih]
    constructor
    · rintro ⟨hab, hrest⟩
      refine List.pairwise_cons.mpr ⟨?_, hrest⟩
      intro x hx
      rcases List.mem_cons.mp hx with rfl | hx
      · exact hab
      · exact hab.trans (List.rel_of_pairwise_cons hrest hx)
    · intro h
      exact ⟨List.rel_of_pairwise_cons h List.mem_cons_self, h.of_cons⟩
  | case2 levels hshort =>
    match levels, hshort with
    | [], _ => exact ⟨fun _ => .nil, fun _ => rfl⟩
    | [a], _ => exact ⟨fun _ => List.pairwise_singleton _ a, fun _ => rfl⟩
    | a :: b :: rest, hshort => exact (hshort a b rest rfl).elim

/-- The levels of the ladder are in strict order and positive. -/
def Sound (l : Ladder) : Prop := Levels.Sound l.side l.levels

/-- A sound ladder passes the test of its order. -/
theorem Sound.isOrdered (h : l.Sound) : l.isOrdered := inOrder_iff.mpr h.ordered

namespace Sound

theorem clear {p : Place} (h : l.Sound) (hlevels : p.levels = l.levels) : (l.clear p).Sound := by
  have hsub := p.cleared_sublist
  rw [hlevels] at hsub
  exact h.sublist hsub

theorem write {p : Place} {price : Decimal} (h : l.Sound) (hlevels : p.levels = l.levels)
    (hplace : p.At l.side price) (hprice : level.price ≈ price) (hlevel : level.Positive) :
    (l.write p level).Sound := by
  have h : Levels.Sound l.side l.levels := h
  rw [← hlevels] at h
  exact h.put hplace hprice hlevel

/-- Setting an amount at a price writes a level with that price. -/
theorem written_price (h : l.Sound) :
    ((l.place level.price).written level).price ≈ level.price := by
  have hplace := place_at h.ordered level.price
  rw [Place.written]
  split
  · next x hx => exact hplace.resting x hx
  · exact Setoid.refl _

theorem written_positive (h : l.Sound) (hlevel : level.Positive) :
    ((l.place level.price).written level).Positive := by
  rw [Place.written]
  split
  · next x hx =>
    have hmem := Place.mem_levels_of_some hx
    rw [l.place_levels] at hmem
    exact ⟨(h.positive x hmem).1, hlevel.2⟩
  · exact hlevel

end Sound

/-- Every edit by an action that passes the check keeps a ladder sound. -/
theorem Edit.sound (h : l.Sound) (hvalid : ∀ level, action.Sets level → level.Settable)
    (he : l.Edit addressing action l') : l'.Sound := by
  cases he with
  | deletedPrice price => exact h.clear (l.place_levels price)
  | deletedId id => exact h.clear (l.placeOfId_levels id)
  | clearedPrice => exact h.clear (l.place_levels _)
  | clearedId => exact h.clear (l.placeOfId_levels _)
  | @setPrice action level sets _ nonzero =>
    have hlevel := (hvalid level sets).positive nonzero
    exact h.write (l.place_levels _) (place_at h.ordered _) h.written_price
      (h.written_positive hlevel)
  | @amendedId level x id _ _ nonzero resting stays =>
    -- the level keeps its price, so its place is still that of its price
    have hlevel := (hvalid level (.inr rfl)).positive nonzero
    have hmem := Place.mem_levels_of_some resting
    have hplace : (l.placeOfId id).At l.side x.price := by
      refine Place.at_of_resting ?_ resting (Setoid.refl _)
      rw [l.placeOfId_levels]
      exact h.ordered
    rw [l.placeOfId_levels] at hmem
    exact h.write (l.placeOfId_levels id) hplace (Setoid.refl _) ⟨(h.positive x hmem).1, hlevel.2⟩
  | @placedId action level id sets _ _ nonzero =>
    -- the new place is looked up once the level has left the old one
    have hlevel := (hvalid level sets).positive nonzero
    have hcleared := h.clear (l.placeOfId_levels id)
    exact hcleared.write (place_levels _ _) (place_at hcleared.ordered _) (Setoid.refl _) hlevel

end Ladder

end MarketDepth
