/-
MarketDepth/Proofs/Ladder/Moves.lean

How a level with a number comes to rest at its price.

Two edits bring it there: an insertion takes the number away first and then looks for
the price, and an amendment looks for the number and may leave its level where it is.
On a sound ladder with distinct numbers the two come to the same.  The level stands at
the place that its price has once the number is gone (`Ladder.destination`), in the
stead of what rests there; all other levels stay; and an amount of zero takes the
number away and does nothing else.  What an amendment leaves in its place keeps the
scale of its price, and this is the only difference between the two.

Main result: `Ladder.moved_of_number`.
-/
import Mathlib.Data.List.Forall2
import MarketDepth.Proofs.Book.Deletions
import MarketDepth.Proofs.Decimal.Values
import MarketDepth.Proofs.Ladder.Ids
import MarketDepth.Proofs.Ladder.Sound

namespace MarketDepth

/-- The same level but for the scale of its price. -/
structure Level.Alike (x y : Level) : Prop where
  price : x.price ≈ y.price
  amount : x.amount = y.amount
  id : x.id = y.id

theorem Level.Alike.refl (x : Level) : x.Alike x := ⟨Setoid.refl _, rfl, rfl⟩

theorem Level.Alike.symm {x y : Level} (h : x.Alike y) : y.Alike x :=
  ⟨Setoid.symm h.price, h.amount.symm, h.id.symm⟩

instance (x y : Level) : Decidable (x.Alike y) :=
  decidable_of_iff (x.price ≈ y.price ∧ x.amount = y.amount ∧ x.id = y.id)
    ⟨fun ⟨hprice, hamount, hid⟩ => ⟨hprice, hamount, hid⟩, fun h => ⟨h.price, h.amount, h.id⟩⟩

namespace Levels

variable {levels : List Level} {price price' : Decimal} {id : Int}

/-- The levels that do not have a number. -/
def otherThan (levels : List Level) (id : Int) : List Level := levels.filter fun x => x.id ≠ some id

/-- Where numbers are distinct, the first level with a number is the only one. -/
theorem withoutFirst_eq_otherThan (h : DistinctIds levels) (id : Int) :
    withoutFirst levels id = otherThan levels id := by
  induction levels with
  | nil => rfl
  | cons x rest ih =>
    obtain ⟨hfresh, hrest⟩ := distinctIds_cons.mp h
    rw [withoutFirst, otherThan, List.eraseP_cons, List.filter_cons]
    by_cases hx : x.id = some id
    · have hnone : ∀ y ∈ rest, y.id ≠ some id := by
        intro y hy hid
        exact hfresh id hx (mem_ids.mpr ⟨y, hy, hid⟩)
      have hkept : rest.filter (fun y => y.id ≠ some id) = rest :=
        List.filter_eq_self.mpr fun y hy => decide_eq_true (hnone y hy)
      simp only [hx, decide_true, cond_true, ne_eq, not_true_eq_false, decide_false,
        Bool.false_eq_true, if_false]
      exact hkept.symm
    · simp only [hx, decide_false, cond_false, ne_eq, not_false_eq_true, decide_true, if_true]
      exact congrArg _ (ih hrest)

theorem awayFrom_congr (h : price ≈ price') : awayFrom levels price = awayFrom levels price' := by
  have hsame : ∀ x : Level, x.price ≈ price ↔ x.price ≈ price' :=
    fun x => ⟨fun hx => Setoid.trans hx h, fun hx => Setoid.trans hx (Setoid.symm h)⟩
  simp only [awayFrom, hsame]

end Levels

/-- An action sets one level only. -/
theorem Action.Sets.unique {action : Action} {x y : Level} (hx : action.Sets x)
    (hy : action.Sets y) : x = y := by
  rcases hx with rfl | rfl <;> rcases hy with hy | hy <;> cases hy <;> rfl

theorem Place.put_perm (p : Place) (l : Level) : (p.put l).Perm (l :: p.cleared) :=
  List.perm_middle

/-- Two alike levels written at one place make alike levels. -/
theorem Place.put_alike (p : Place) {x y : Level} (h : x.Alike y) :
    List.Forall₂ Level.Alike (p.put x) (p.put y) := by
  have hsame : ∀ levels : List Level, List.Forall₂ Level.Alike levels levels :=
    fun levels => List.forall₂_same.mpr fun x _ => .refl x
  exact List.rel_append (hsame p.ahead) (.cons h (hsame p.behind))

namespace Ladder

variable {l l' : Ladder} {action : Action} {level x : Level} {id : Int}

/-- The place where a level with a number comes to rest: that of its price, once the
number is gone. -/
def destination (l : Ladder) (id : Int) (price : Decimal) : Place :=
  (l.clear (l.placeOfId id)).place price

theorem placeOfId_otherThan (hids : l.DistinctIds) (id : Int) :
    (l.placeOfId id).cleared = Levels.otherThan l.levels id := by
  rw [placeOfId_withoutFirst, Levels.withoutFirst_eq_otherThan hids]

theorem destination_cleared (h : l.Sound) (hids : l.DistinctIds) (id : Int) (price : Decimal) :
    (l.destination id price).cleared =
      Levels.awayFrom (Levels.otherThan l.levels id) price := by
  have hcleared := h.clear (l.placeOfId_levels id)
  rw [destination, place_awayFrom hcleared.ordered]
  exact congrArg (Levels.awayFrom · price) (placeOfId_otherThan hids id)

/-- A level that rests at the price already leaves a gap there. -/
theorem destination_of_resting (h : l.Sound) (hx : (l.placeOfId id).resting = some x)
    {price : Decimal} (hprice : x.price ≈ price) :
    l.destination id price = { l.placeOfId id with resting := none } := by
  have hlevels := l.placeOfId_levels id
  have hordered := h.ordered
  rw [← hlevels] at hordered
  have hat := Place.at_of_resting hordered hx hprice
  have hcleared := h.clear hlevels
  symm
  refine place_unique hcleared.ordered rfl (by simp) ?_
  intro _
  exact ⟨hat.ahead, hat.behind⟩

/-- An edit that sets a level with a number takes the number away if the amount is
zero, and else leaves the level at its destination. -/
theorem Edit.moved (h : l.Sound) (sets : action.Sets level) (numbered : level.id = some id)
    (he : l.Edit .id action l') :
    (level.amount.IsZero → l' = l.clear (l.placeOfId id)) ∧
      (¬level.amount.IsZero → ∃ x, x.Alike level ∧
        l' = l.write (l.destination id level.price) x) := by
  cases he with
  | deletedPrice | deletedId => rcases sets with sets | sets <;> cases sets
  | clearedPrice sets' unnumbered | setPrice sets' unnumbered =>
    obtain rfl := sets'.unique sets
    simp [numbered] at unnumbered
  | @clearedId action other id' sets' _ numbered' zero =>
    obtain rfl := sets'.unique sets
    obtain rfl : id' = id := Option.some.inj (numbered'.symm.trans numbered)
    exact ⟨fun _ => rfl, fun nonzero => absurd zero nonzero⟩
  | @amendedId other x id' _ numbered' nonzero resting stays =>
    obtain rfl := Action.Sets.unique (.inr rfl) sets
    obtain rfl : id' = id := Option.some.inj (numbered'.symm.trans numbered)
    refine ⟨fun zero => absurd zero nonzero, fun _ => ?_⟩
    -- the level stays where it is, which is where it would come to rest
    refine ⟨{ x with amount := other.amount }, ⟨stays, rfl, ?_⟩, ?_⟩
    · exact ((l.placeOfId_ofId id').resting x resting).trans numbered.symm
    · rw [destination_of_resting h resting stays]
      rfl
  | @placedId action other id' sets' _ numbered' nonzero =>
    obtain rfl := sets'.unique sets
    obtain rfl : id' = id := Option.some.inj (numbered'.symm.trans numbered)
    exact ⟨fun zero => absurd zero nonzero, fun _ => ⟨other, .refl other, rfl⟩⟩

/-- An amendment of a number that rests does not fail. -/
theorem exists_amendId (hx : x ∈ l.levels) (hid : x.id = some id) (level : Level) (pool : Pool)
    (now : Instant) : ∃ r, l.amendId id level pool now = .ok r := by
  cases hr : l.amendId id level pool now with
  | ok r => exact ⟨r, rfl⟩
  | error e => exact absurd (Levels.mem_ids.mpr ⟨x, hx, hid⟩) (amendId_eq_error_iff.mp hr).1

/-- One ladder is the other after a level with a number has come to rest at its price:
all levels stay, but for the one that had the number and for the one at the price; and
if the amount is zero, all levels but the one that had the number. -/
structure Moved (l : Ladder) (id : Int) (level : Level) (l' : Ladder) : Prop where
  side : l'.side = l.side
  zero : level.amount.IsZero → l'.levels = Levels.otherThan l.levels id
  nonzero : ¬level.amount.IsZero →
    l'.levels.Perm (level :: Levels.awayFrom (Levels.otherThan l.levels id) level.price)

theorem moved_clear (hids : l.DistinctIds) (hzero : level.amount.IsZero) :
    l.Moved id level (l.clear (l.placeOfId id)) :=
  ⟨rfl, fun _ => placeOfId_otherThan hids id, fun hnonzero => absurd hzero hnonzero⟩

theorem moved_write (h : l.Sound) (hids : l.DistinctIds) (hnonzero : ¬level.amount.IsZero)
    {price : Decimal} (hprice : level.price ≈ price) :
    l.Moved id level (l.write (l.destination id price) level) := by
  refine ⟨rfl, fun hzero => absurd hzero hnonzero, fun _ => ?_⟩
  have hperm := (l.destination id price).put_perm level
  rw [destination_cleared h hids, ← Levels.awayFrom_congr hprice] at hperm
  exact hperm

/-- **A level with a number comes to rest at its price**, on a ladder in strict order
with positive levels and distinct numbers, and however it gets there.  An insertion
leaves all other levels but the one at the price and puts the new one there, or takes the
number away if the amount is zero; an amendment of a number that rests never fails, and
does the same with a level that may keep the scale of its old price.  Order, positive
levels and distinct numbers are kept by both. -/
theorem moved_of_number (h : l.Sound) (hids : l.DistinctIds) (hlevel : level.Settable)
    (hid : level.id = some id) (pool : Pool) (now : Instant) :
    let inserted := (l.insertId level pool now).1
    (l.Moved id level inserted ∧ inserted.Sound ∧ inserted.DistinctIds) ∧
      ((∃ x ∈ l.levels, x.id = some id) → ∃ r, l.amendId id level pool now = .ok r ∧
        (∃ x, x.Alike level ∧ l.Moved id x r.1) ∧ r.1.Sound ∧ r.1.DistinctIds ∧
        List.Forall₂ Level.Alike inserted.levels r.1.levels) := by
  intro inserted
  have hvalid : ∀ {action : Action}, action.Sets level →
      ∀ other, action.Sets other → other.Settable := by
    intro action sets other hother
    rw [hother.unique sets]
    exact hlevel
  have hinsert : l.Edit .id (.insert level) inserted := insertId_edit hid
  have hinserted : inserted = if level.amount.IsZero then l.clear (l.placeOfId id)
      else l.write (l.destination id level.price) level := by
    show (l.insertId level pool now).1 = _
    rw [insertId_fst, hid, withoutId_some_fst]
    rfl
  refine ⟨⟨?_, hinsert.sound h (hvalid (.inl rfl)), hinsert.distinctIds hids⟩, ?_⟩
  · rw [hinserted]
    split
    · next hzero => exact moved_clear hids hzero
    · next hnonzero => exact moved_write h hids hnonzero (Setoid.refl _)
  · rintro ⟨y, hy, hyid⟩
    obtain ⟨r, hr⟩ := exists_amendId hy hyid level pool now
    have hamend : l.Edit .id (.amend level) r.1 := amendId_edit hr hid
    obtain ⟨hcleared, hwritten⟩ := hamend.moved h (.inr rfl) hid
    have hkept := And.intro (hamend.sound h (hvalid (.inr rfl))) (hamend.distinctIds hids)
    refine ⟨r, hr, ?_, hkept.1, hkept.2, ?_⟩
    · by_cases hzero : level.amount.IsZero
      · rw [hcleared hzero]
        exact ⟨level, .refl level, moved_clear hids hzero⟩
      · obtain ⟨x, hx, hr⟩ := hwritten hzero
        rw [← hx.amount] at hzero
        rw [hr]
        exact ⟨x, hx, moved_write h hids hzero hx.price⟩
    · rw [hinserted]
      split
      · next hzero =>
        rw [hcleared hzero]
        exact List.forall₂_same.mpr fun x _ => .refl x
      · next hnonzero =>
        obtain ⟨x, hx, hr⟩ := hwritten hnonzero
        rw [hr]
        exact Place.put_alike _ hx.symm

/-! Three bids, two of them with a number.  The best one comes to rest at the price of
the next, which is written at another scale. -/

def threeBids : Ladder :=
  ⟨.bid, [⟨.ofNat 10, .two, some 1⟩, ⟨.ofNat 9, .two, some 2⟩, ⟨.ofNat 8, .two, none⟩]⟩

def nine : Level := ⟨.tenths 90, .hundred, some 1⟩

theorem moved_of_threeBids :
    threeBids.Sound ∧ threeBids.DistinctIds ∧ nine.Settable ∧ nine.id = some 1 ∧
      (∃ x ∈ threeBids.levels, x.id = some 1) ∧
      let inserted := (threeBids.insertId nine (.empty 0) 0).1
      inserted.levels = [nine, ⟨.ofNat 8, .two, none⟩] ∧ threeBids.Moved 1 nine inserted ∧
      ∃ r, threeBids.amendId 1 nine (.empty 0) 0 = .ok r ∧
        (∃ x, x.Alike nine ∧ threeBids.Moved 1 x r.1) ∧
        List.Forall₂ Level.Alike inserted.levels r.1.levels := by
  have hsound : threeBids.Sound := (by decide : Levels.Sound .bid _)
  have hids : threeBids.DistinctIds := (by decide : Levels.DistinctIds _)
  have hnine : nine.Settable := ⟨by decide, by decide⟩
  have hrests : ∃ x ∈ threeBids.levels, x.id = some 1 := ⟨_, List.mem_cons_self, rfl⟩
  obtain ⟨⟨hmoved, -, -⟩, hamend⟩ := moved_of_number hsound hids hnine rfl (.empty 0) 0
  obtain ⟨r, hr, hx, -, -, halike⟩ := hamend hrests
  exact ⟨hsound, hids, hnine, rfl, hrests, by decide, hmoved, r, hr, hx, halike⟩

end Ladder

end MarketDepth
