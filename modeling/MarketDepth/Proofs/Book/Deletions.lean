/-
MarketDepth/Proofs/Book/Deletions.lean

What a deletion takes away.

A deletion names a level by its price or by its number.  By price it takes away all
that rests there, and nothing else (`Place.At.awayFrom_eq`); by number it takes away
the first level that has the number, wherever that rests (`Place.OfId.withoutFirst_eq`).
The two leave the same levels exactly if they mean the same level, or if neither means
any (`Ladder.withoutFirst_eq_awayFrom_iff`).

A message with a single change edits one side of the book and leaves the other one
alone (`Book.Takes.edit`).
-/
import MarketDepth.Proofs.Book.Takes
import MarketDepth.Proofs.Ladder.Edits

namespace MarketDepth

namespace Levels

variable (levels : List Level)

/-- The levels that do not rest at a price. -/
def awayFrom (price : Decimal) : List Level := levels.filter fun x => ¬x.price ≈ price

/-- The level that rests at a price. -/
def restingAt? (price : Decimal) : Option Level := levels.find? fun x => x.price ≈ price

/-- The levels without the first one that has a number. -/
def withoutFirst (id : Int) : List Level := levels.eraseP fun x => x.id = some id

/-- The first level that has a number. -/
def numbered? (id : Int) : Option Level := levels.find? fun x => x.id = some id

end Levels

/-! ### Places -/

namespace Place

variable {p q : Place} {side : Side} {price : Decimal} {id : Int} {x : Level}

namespace At

theorem ahead_ne (h : p.At side price) (hx : x ∈ p.ahead) : ¬x.price ≈ price :=
  (h.ahead x hx).not_equiv

theorem behind_ne (h : p.At side price) (hx : x ∈ p.behind) : ¬x.price ≈ price :=
  fun heq => (h.behind x hx).not_equiv (Setoid.symm heq)

theorem cleared_ne (h : p.At side price) (hx : x ∈ p.cleared) : ¬x.price ≈ price := by
  rcases List.mem_append.mp hx with hx | hx
  · exact h.ahead_ne hx
  · exact h.behind_ne hx

/-- Away from a price there is all but what rests at its place. -/
theorem awayFrom_eq (h : p.At side price) : Levels.awayFrom p.levels price = p.cleared := by
  have hkept : p.cleared.filter (fun x => ¬x.price ≈ price) = p.cleared :=
    List.filter_eq_self.mpr fun x hx => decide_eq_true (h.cleared_ne hx)
  rw [cleared, List.filter_append] at hkept
  rw [Levels.awayFrom, levels, List.filter_append, List.filter_append, cleared]
  cases hp : p.resting with
  | none => exact hkept
  | some x =>
    have hx : x.price ≈ price := h.resting x hp
    simp only [Option.toList_some, List.filter_cons, hx, not_true_eq_false, decide_false,
      Bool.false_eq_true, if_false, List.filter_nil, List.nil_append]
    exact hkept

theorem restingAt?_eq (h : p.At side price) : Levels.restingAt? p.levels price = p.resting := by
  have hahead : p.ahead.find? (fun x => x.price ≈ price) = none := by
    rw [List.find?_eq_none]
    intro x hx
    rw [decide_eq_true_eq]
    exact h.ahead_ne hx
  have hbehind : p.behind.find? (fun x => x.price ≈ price) = none := by
    rw [List.find?_eq_none]
    intro x hx
    rw [decide_eq_true_eq]
    exact h.behind_ne hx
  rw [Levels.restingAt?, levels, List.find?_append, List.find?_append, hahead, hbehind]
  cases hp : p.resting with
  | none => rfl
  | some x =>
    have hx : decide (x.price ≈ price) = true := decide_eq_true (h.resting x hp)
    rw [Option.toList_some, List.find?_singleton, hx]
    rfl

end At

namespace OfId

theorem withoutFirst_eq (h : p.OfId id) : Levels.withoutFirst p.levels id = p.cleared := by
  rw [Levels.withoutFirst, levels, List.eraseP_append_right _ (by simpa using h.ahead), cleared]
  cases hp : p.resting with
  | none =>
    rw [h.absent hp]
    rfl
  | some x =>
    have hx : x.id = some id := h.resting x hp
    simp [hx]

theorem numbered?_eq (h : p.OfId id) : Levels.numbered? p.levels id = p.resting := by
  have hahead : p.ahead.find? (fun x => x.id = some id) = none := by
    rw [List.find?_eq_none]
    simpa using h.ahead
  rw [Levels.numbered?, levels, List.find?_append, hahead]
  cases hp : p.resting with
  | none =>
    rw [h.absent hp]
    rfl
  | some x =>
    have hx : x.id = some id := h.resting x hp
    simp [hx]

end OfId

/-- To clear some place of a ladder in order has the same effect as to clear the place
of a price, exactly if the same level rests there. -/
theorem cleared_eq_iff (hordered : Levels.Ordered side p.levels) (hp : p.At side price)
    (hlevels : q.levels = p.levels) : q.cleared = p.cleared ↔ q.resting = p.resting := by
  have hcount : q.cleared.length + q.resting.toList.length =
      p.cleared.length + p.resting.toList.length := by
    rw [← length_levels, ← length_levels, hlevels]
  constructor
  · intro hcleared
    rw [hcleared] at hcount
    cases hq : q.resting with
    | none =>
      cases hp : p.resting with
      | none => rfl
      | some x => simp [hq, hp] at hcount
    | some y =>
      cases hpx : p.resting with
      | none => simp [hq, hpx] at hcount
      | some x =>
        -- the level at the price is not among those that `q` leaves
        have hmem : x ∈ q.levels := by
          rw [hlevels]
          exact mem_levels_of_some hpx
        rw [levels_of_some hq] at hmem
        have hcases : x = y ∨ x ∈ q.cleared := mem_put.mp hmem
        rcases hcases with rfl | hx
        · rfl
        · rw [hcleared] at hx
          exact absurd (hp.resting x hpx) (hp.cleared_ne hx)
  · intro hresting
    cases hq : q.resting with
    | none =>
      rw [← levels_of_none hq, ← levels_of_none (hresting ▸ hq), hlevels]
    | some x =>
      have hat : q.At side price := by
        rw [← hlevels] at hordered
        exact at_of_resting hordered hq (hp.resting x (hresting ▸ hq))
      rw [hat.unique hp hlevels]

end Place

/-! ### Ladders -/

namespace Ladder

variable {l l' : Ladder} {addressing : Addressing} {price : Decimal} {id : Int}

theorem place_awayFrom (h : Levels.Ordered l.side l.levels) (price : Decimal) :
    (l.place price).cleared = Levels.awayFrom l.levels price := by
  rw [← (place_at h price).awayFrom_eq, l.place_levels]

theorem placeOfId_withoutFirst (l : Ladder) (id : Int) :
    (l.placeOfId id).cleared = Levels.withoutFirst l.levels id := by
  rw [← (l.placeOfId_ofId id).withoutFirst_eq, l.placeOfId_levels]

/-- A deletion by number leaves the levels away from a price exactly if the first level
with the number is the one at the price, or there is neither. -/
theorem withoutFirst_eq_awayFrom_iff (h : Levels.Ordered l.side l.levels) :
    Levels.withoutFirst l.levels id = Levels.awayFrom l.levels price ↔
      Levels.numbered? l.levels id = Levels.restingAt? l.levels price := by
  have hprice := place_at h price
  have hid := l.placeOfId_ofId id
  have hlevels : (l.placeOfId id).levels = (l.place price).levels :=
    (l.placeOfId_levels id).trans (l.place_levels price).symm
  rw [← placeOfId_withoutFirst, ← place_awayFrom h]
  have hordered : Levels.Ordered l.side (l.place price).levels := by
    rw [l.place_levels]
    exact h
  rw [Place.cleared_eq_iff hordered hprice hlevels, ← hid.numbered?_eq, ← hprice.restingAt?_eq,
    hlevels, l.place_levels]

theorem Edit.levels_of_deletePrice (h : Levels.Ordered l.side l.levels)
    (he : l.Edit addressing (.delete (.price price)) l') :
    l'.levels = Levels.awayFrom l.levels price := by
  cases he with
  | deletedPrice => exact place_awayFrom h price
  | clearedPrice sets | setPrice sets | clearedId sets | placedId sets => simp [Action.Sets] at sets

theorem Edit.levels_of_deleteId (he : l.Edit addressing (.delete (.id id)) l') :
    l'.levels = Levels.withoutFirst l.levels id := by
  cases he with
  | deletedId => exact l.placeOfId_withoutFirst id
  | clearedPrice sets | setPrice sets | clearedId sets | placedId sets => simp [Action.Sets] at sets

end Ladder

/-! ### Messages with one change -/

namespace Book

variable {b b' : Book} {d : Delta} {side : Side} {action : Action}

theorem ladder_setLadder (b : Book) (side : Side) (l : Ladder) :
    (b.setLadder side l).ladder side = l ∧
      ∀ other, other ≠ side → (b.setLadder side l).ladder other = b.ladder other := by
  refine ⟨by cases side <;> rfl, ?_⟩
  intro other hne
  cases side with
  | bid => cases other <;> trivial
  | ask => cases other <;> trivial

/-- A single change edits its own side of the book only. -/
theorem Takes.edit (h : b.Takes d b') (hchanges : d.changes = [⟨side, action⟩]) :
    (b.ladder side).Edit b.options.addressing action (b'.ladder side) ∧
      ∀ other, other ≠ side → b'.ladder other = b.ladder other := by
  have herror := apply_error_of_applyDelta (h.error (.empty 0) 0)
  have hbook := h.book (.empty 0) 0
  rw [applyDelta_book, hchanges] at hbook
  rw [hchanges] at herror
  unfold apply at hbook herror
  cases hm : b.checkMessage d.id [⟨side, action⟩] with
  | error e => simp [hm] at herror
  | ok u =>
    simp only [hm] at hbook herror
    unfold applyInTurn applyChange at hbook herror
    cases hl : (b.ladder side).apply b.options.addressing action (.empty 0) 0 with
    | error e => simp [hl, Except.map] at herror
    | ok r =>
      simp only [hl, Except.map, applyInTurn] at hbook
      subst hbook
      obtain ⟨hside, hother⟩ := b.ladder_setLadder side r.1
      have hedit := Ladder.apply_edit hl
      rw [← hside] at hedit
      -- the last number alone is new besides
      constructor
      · cases side <;> exact hedit
      · intro other hne
        rw [← hother other hne]
        cases other <;> rfl

end Book

end MarketDepth
