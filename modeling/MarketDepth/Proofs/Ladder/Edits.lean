/-
MarketDepth/Proofs/Ladder/Edits.lean

All that one action can do to a ladder.

`l.Edit addressing action l'` has one rule for each way in which an action ends,
and says of each when it happens and what rests in the ladder then: the level at
some place is taken away, or a level is written there.  `Ladder.apply_edit` says
that an action that does not fail is one of these edits, so what is shown of every
edit is shown of every action.  The nodes do not occur in it: they leave no trace.
-/
import MarketDepth.Proofs.Nodes
import MarketDepth.Proofs.Ladder.Places

namespace MarketDepth

/-- The action sets a level. -/
def Action.Sets (action : Action) (level : Level) : Prop :=
  action = .insert level ∨ action = .amend level

/-- What setting an amount at a price writes at the place of the price. -/
def Place.written (p : Place) (level : Level) : Level :=
  match p.resting with
  | some x => { x with amount := level.amount, id := level.id.or x.id }
  | none => level

namespace Ladder

variable {l l' : Ladder} {pool : Pool} {now : Instant} {addressing : Addressing}
variable {action : Action} {level : Level} {id : Int}

/-- The ladder without the level at a place. -/
def clear (l : Ladder) (p : Place) : Ladder := { l with levels := p.cleared }

/-- The ladder with a level written at a place. -/
def write (l : Ladder) (p : Place) (level : Level) : Ladder := { l with levels := p.put level }

/-- What one action can do to a ladder. -/
inductive Edit (l : Ladder) (addressing : Addressing) : Action → Ladder → Prop
  /-- What rests at a price is deleted. -/
  | deletedPrice (price : Decimal) :
      Edit l addressing (.delete (.price price)) (l.clear (l.place price))
  /-- The level with a number is deleted. -/
  | deletedId (id : Int) : Edit l addressing (.delete (.id id)) (l.clear (l.placeOfId id))
  /-- An amount of zero is set at a price. -/
  | clearedPrice {action : Action} {level : Level} (sets : action.Sets level)
      (unnumbered : addressing = .price ∨ level.id = none) (zero : level.amount.IsZero) :
      Edit l addressing action (l.clear (l.place level.price))
  /-- Another amount is set at a price. -/
  | setPrice {action : Action} {level : Level} (sets : action.Sets level)
      (unnumbered : addressing = .price ∨ level.id = none) (nonzero : ¬level.amount.IsZero) :
      Edit l addressing action
        (l.write (l.place level.price) ((l.place level.price).written level))
  /-- An amount of zero is set for a number. -/
  | clearedId {action : Action} {level : Level} {id : Int} (sets : action.Sets level)
      (byId : addressing = .id) (numbered : level.id = some id) (zero : level.amount.IsZero) :
      Edit l addressing action (l.clear (l.placeOfId id))
  /-- Another amount is set for a number that rests at the price already. -/
  | amendedId {level x : Level} {id : Int} (byId : addressing = .id)
      (numbered : level.id = some id) (nonzero : ¬level.amount.IsZero)
      (resting : (l.placeOfId id).resting = some x) (stays : x.price ≈ level.price) :
      Edit l addressing (.amend level)
        (l.write (l.placeOfId id) { x with amount := level.amount })
  /-- A numbered level comes to rest at its price, and at no other any more. -/
  | placedId {action : Action} {level : Level} {id : Int} (sets : action.Sets level)
      (byId : addressing = .id) (numbered : level.id = some id)
      (nonzero : ¬level.amount.IsZero) :
      Edit l addressing action
        (l.write ((l.clear (l.placeOfId id)).place level.price) level)

/-! ### What the edits of the program write -/

theorem vacate_fst {p : Place} (h : p.levels = l.levels) :
    (l.vacate p pool now).1 = l.clear p := by
  unfold vacate clear
  cases hp : p.resting with
  | none =>
    rw [← Place.levels_of_none hp, h]
  | some x => rfl

theorem setPrice_fst_of_zero (h : level.amount.IsZero) :
    (l.setPrice level pool now).1 = l.clear (l.place level.price) := by
  rw [setPrice, if_pos h]
  exact vacate_fst (l.place_levels level.price)

theorem setPrice_fst_of_nonzero (h : ¬level.amount.IsZero) :
    (l.setPrice level pool now).1 =
      l.write (l.place level.price) ((l.place level.price).written level) := by
  rw [setPrice, if_neg h, write, Place.written]
  dsimp only
  cases (l.place level.price).resting <;> rfl

theorem withoutId_some_fst (id : Int) :
    (l.withoutId pool now (some id)).1 = l.clear (l.placeOfId id) :=
  vacate_fst (l.placeOfId_levels id)

/-- An amendment that does not fail finds its level, and is one of three edits. -/
theorem amendId_edit {r : Edited} (h : l.amendId id level pool now = .ok r)
    (numbered : level.id = some id) : l.Edit .id (.amend level) r.1 := by
  have hsame : { level with id := some id } = level := by rw [← numbered]
  unfold amendId at h
  dsimp only at h
  cases hx : (l.placeOfId id).resting with
  | none => simp [hx] at h
  | some x =>
    simp only [hx] at h
    split at h
    · next hzero =>
      obtain rfl := Except.ok.inj h
      rw [vacate_fst (l.placeOfId_levels id)]
      exact .clearedId (.inr rfl) rfl numbered hzero
    · next hnonzero =>
      split at h
      · next hstays =>
        obtain rfl := Except.ok.inj h
        exact .amendedId rfl numbered hnonzero hx hstays
      · -- whatever rests at the new price, the level is written there
        have hwritten : r.1 = l.write ((l.clear (l.placeOfId id)).place level.price) level := by
          rw [hsame] at h
          split at h <;> obtain rfl := Except.ok.inj h <;> rfl
        rw [hwritten]
        exact .placedId (.inr rfl) rfl numbered hnonzero

theorem setPrice_edit (sets : action.Sets level)
    (unnumbered : addressing = .price ∨ level.id = none) :
    l.Edit addressing action (l.setPrice level pool now).1 := by
  by_cases hzero : level.amount.IsZero
  · rw [setPrice_fst_of_zero hzero]
    exact .clearedPrice sets unnumbered hzero
  · rw [setPrice_fst_of_nonzero hzero]
    exact .setPrice sets unnumbered hzero

theorem insertId_edit (numbered : level.id = some id) :
    l.Edit .id (.insert level) (l.insertId level pool now).1 := by
  rw [insertId_fst, numbered, withoutId_some_fst]
  dsimp only
  split
  · next hzero => exact .clearedId (.inl rfl) rfl numbered hzero
  · next hnonzero => exact .placedId (.inl rfl) rfl numbered hnonzero

/-- An action that does not fail is one of the edits that an action can be. -/
theorem apply_edit {r : Edited} (h : l.apply addressing action pool now = .ok r) :
    l.Edit addressing action r.1 := by
  cases action with
  | insert level =>
    rw [apply] at h
    split at h
    · next hbyId =>
      obtain ⟨rfl, hsome⟩ := hbyId
      obtain ⟨id, hid⟩ := Option.isSome_iff_exists.mp hsome
      obtain rfl := Except.ok.inj h
      exact insertId_edit hid
    · next hbyPrice =>
      obtain rfl := Except.ok.inj h
      refine setPrice_edit (.inl rfl) ?_
      cases addressing with
      | price => exact .inl rfl
      | id => exact .inr (by simpa using hbyPrice)
  | amend level =>
    cases addressing with
    | price =>
      obtain rfl := Except.ok.inj h
      exact setPrice_edit (.inr rfl) (.inl rfl)
    | id =>
      cases hid : level.id with
      | none =>
        simp only [apply, hid] at h
        obtain rfl := Except.ok.inj h
        exact setPrice_edit (.inr rfl) (.inr hid)
      | some id =>
        simp only [apply, hid] at h
        exact amendId_edit h hid
  | delete address =>
    cases address with
    | price price =>
      obtain rfl := Except.ok.inj h
      rw [removePrice, vacate_fst (l.place_levels price)]
      exact .deletedPrice price
    | id id =>
      obtain rfl := Except.ok.inj h
      rw [removeId, vacate_fst (l.placeOfId_levels id)]
      exact .deletedId id

/-- An edit keeps the side of the ladder. -/
theorem Edit.side (h : l.Edit addressing action l') : l'.side = l.side := by
  cases h <;> rfl

end Ladder

end MarketDepth
