/-
MarketDepth/Proofs/Ladder/Ids.lean

The numbers of the levels on a ladder.

Where a venue names its levels by number, no two levels of a ladder should have
one number.  Every edit keeps this (`Ladder.Edit.distinctIds`).  A level gets its
number in one way only, by coming to rest at its price, and before that the level
which had the number has been taken away; for this it matters that there was only
one, since a number is looked up up to the first level that has it.

There, too, an action can fail: it does so exactly if it amends a number that no level
has (`Ladder.apply_eq_error_iff`).
-/
import MarketDepth.Proofs.Ladder.Edits

namespace MarketDepth

namespace Levels

/-- The numbers of those levels that have one. -/
def ids (levels : List Level) : List Int := levels.filterMap (·.id)

/-- No two of the levels have one number. -/
def DistinctIds (levels : List Level) : Prop := (ids levels).Nodup

instance (levels : List Level) : Decidable (DistinctIds levels) :=
  inferInstanceAs (Decidable (ids levels).Nodup)

variable {levels levels' : List Level} {id : Int}

theorem mem_ids : id ∈ ids levels ↔ ∃ l ∈ levels, l.id = some id := List.mem_filterMap

theorem ids_append (levels levels' : List Level) :
    ids (levels ++ levels') = ids levels ++ ids levels' := List.filterMap_append

theorem ids_cons (l : Level) (levels : List Level) :
    ids (l :: levels) = l.id.toList ++ ids levels := by
  cases h : l.id <;> simp [ids, h]

theorem distinctIds_cons {l : Level} :
    DistinctIds (l :: levels) ↔ (∀ id ∈ l.id, id ∉ ids levels) ∧ DistinctIds levels := by
  rw [DistinctIds, ids_cons]
  cases h : l.id <;> simp [DistinctIds]

theorem DistinctIds.sublist (h : DistinctIds levels) (hsub : levels'.Sublist levels) :
    DistinctIds levels' := List.Nodup.sublist (hsub.filterMap _) h

end Levels

namespace Place

open Levels

variable {p : Place} {l x : Level} {id : Int}

/-- Writing a level adds its number, if it has one. -/
theorem ids_put_perm (p : Place) (l : Level) :
    (ids (p.put l)).Perm (l.id.toList ++ ids p.cleared) := by
  rw [put, cleared, ids_append, ids_append, ids_cons]
  exact List.perm_append_comm_assoc _ _ _

/-- A level with a number that no other level has may be written anywhere. -/
theorem distinctIds_put (h : DistinctIds p.cleared) (hfresh : ∀ id ∈ l.id, id ∉ ids p.cleared) :
    DistinctIds (p.put l) := by
  rw [DistinctIds, (p.ids_put_perm l).nodup_iff, List.nodup_append]
  refine ⟨by cases l.id <;> simp, h, ?_⟩
  rintro i hi j hj rfl
  exact hfresh i (Option.mem_toList.mp hi) hj

/-- A level that keeps the number of the one it replaces changes no numbers. -/
theorem ids_put_of_some (hx : p.resting = some x) (hid : l.id = x.id) :
    ids (p.put l) = ids p.levels := by
  rw [put, levels_of_some hx, ids_append, ids_append, ids_cons, ids_cons, hid]

/-- A level without a number adds none. -/
theorem ids_put_of_none (hp : p.resting = none) (hid : l.id = none) :
    ids (p.put l) = ids p.levels := by
  rw [put, levels_of_none hp, cleared, ids_append, ids_append, ids_cons, hid]
  rfl

/-- With the level that has a number, the number goes, if no other level has it. -/
theorem OfId.not_mem_cleared (hplace : p.OfId id) (h : DistinctIds p.levels) :
    id ∉ ids p.cleared := by
  rw [cleared, ids_append, List.mem_append, not_or]
  constructor
  · rw [mem_ids]
    rintro ⟨y, hy, hid⟩
    exact hplace.ahead y hy hid
  · cases hp : p.resting with
    | none =>
      rw [hplace.absent hp]
      exact List.not_mem_nil
    | some x =>
      rw [DistinctIds, levels_of_some hp, ids_append, ids_cons, hplace.resting x hp] at h
      exact (List.nodup_cons.mp (List.nodup_append.mp h).2.1).1

end Place

namespace Ladder

open Levels

variable {l l' : Ladder} {action : Action} {level : Level} {id : Int}

/-- No two levels of the ladder have one number. -/
def DistinctIds (l : Ladder) : Prop := Levels.DistinctIds l.levels

theorem DistinctIds.clear {p : Place} (h : l.DistinctIds) (hlevels : p.levels = l.levels) :
    (l.clear p).DistinctIds := by
  have hsub := p.cleared_sublist
  rw [hlevels] at hsub
  exact Levels.DistinctIds.sublist h hsub

theorem DistinctIds.write {p : Place} (h : l.DistinctIds)
    (hids : ids (p.put level) = ids l.levels) : (l.write p level).DistinctIds := by
  show (ids (p.put level)).Nodup
  rw [hids]
  exact h

/-- Setting an amount at a price for a level without a number changes no numbers. -/
theorem ids_setPrice (l : Ladder) (h : level.id = none) :
    ids ((l.place level.price).put ((l.place level.price).written level)) = ids l.levels := by
  rw [← l.place_levels level.price, Place.written]
  split
  · next x hx => exact Place.ids_put_of_some hx (by rw [h, Option.none_or])
  · next hx => exact Place.ids_put_of_none hx h

/-- Where levels are named by number, every edit keeps the numbers distinct. -/
theorem Edit.distinctIds (h : l.DistinctIds) (he : l.Edit .id action l') : l'.DistinctIds := by
  cases he with
  | deletedPrice price => exact h.clear (l.place_levels price)
  | deletedId id => exact h.clear (l.placeOfId_levels id)
  | clearedPrice => exact h.clear (l.place_levels _)
  | clearedId => exact h.clear (l.placeOfId_levels _)
  | @setPrice action level _ unnumbered _ =>
    have hnone : level.id = none := by simpa using unnumbered
    exact h.write (l.ids_setPrice hnone)
  | @amendedId level x id _ _ _ resting _ =>
    have hid : ({ x with amount := level.amount } : Level).id = x.id := rfl
    refine h.write ((Place.ids_put_of_some resting hid).trans ?_)
    rw [l.placeOfId_levels]
  | @placedId action level id _ _ numbered _ =>
    -- the number is free once its level is gone, and stays so at the new place
    have hcleared := h.clear (l.placeOfId_levels id)
    have hfree : id ∉ ids (l.placeOfId id).cleared := by
      refine (l.placeOfId_ofId id).not_mem_cleared ?_
      rw [l.placeOfId_levels]
      exact h
    have hsub := ((l.clear (l.placeOfId id)).place level.price).cleared_sublist
    rw [place_levels] at hsub
    refine Place.distinctIds_put (Levels.DistinctIds.sublist hcleared hsub) ?_
    intro i hi hmem
    obtain rfl : id = i := Option.some.inj (numbered.symm.trans hi)
    exact hfree ((hsub.filterMap _).subset hmem)

/-! ### Numbers that do not rest -/

theorem placeOfId_resting_eq_none_iff :
    (l.placeOfId id).resting = none ↔ id ∉ ids l.levels := by
  have hplace := l.placeOfId_ofId id
  rw [mem_ids]
  constructor
  · rintro hnone ⟨x, hx, hid⟩
    -- nothing is behind the place either, so that all levels are ahead of it
    rw [← l.placeOfId_levels id, Place.levels_of_none hnone, Place.cleared, hplace.absent hnone,
      List.append_nil] at hx
    exact hplace.ahead x hx hid
  · intro habsent
    cases hx : (l.placeOfId id).resting with
    | none => rfl
    | some x =>
      have hmem := Place.mem_levels_of_some hx
      rw [l.placeOfId_levels] at hmem
      exact absurd ⟨x, hmem, hplace.resting x hx⟩ habsent

/-- An amendment fails if and only if no level has the number. -/
theorem amendId_eq_error_iff {pool : Pool} {now : Instant} {e : BookError} :
    l.amendId id level pool now = .error e ↔ id ∉ ids l.levels ∧ e = .levelNotFound id := by
  rw [← placeOfId_resting_eq_none_iff]
  unfold amendId
  cases hx : (l.placeOfId id).resting with
  | none => simp [hx, eq_comm]
  | some x =>
    simp only [hx, reduceCtorEq, false_and, iff_false]
    split
    · simp
    · split
      · simp
      · split <;> simp

/-- An action fails if and only if it amends, where levels are named by number, a number
that no level has. -/
theorem apply_eq_error_iff {addressing : Addressing} {pool : Pool} {now : Instant}
    {e : BookError} :
    l.apply addressing action pool now = .error e ↔ addressing = .id ∧ ∃ level id,
      action = .amend level ∧ level.id = some id ∧ id ∉ ids l.levels ∧ e = .levelNotFound id := by
  cases action with
  | insert level =>
    rw [apply]
    split <;> simp
  | amend level =>
    cases addressing with
    | price => simp [apply]
    | id =>
      cases hid : level.id with
      | none => simp [apply, hid]
      | some id => simp [apply, hid, amendId_eq_error_iff]
  | delete address => cases address <;> simp [apply]

end Ladder

end MarketDepth
