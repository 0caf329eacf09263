/-
MarketDepth/Proofs/Ladder/Places.lean

Where an edit of a ladder takes place.

An edit looks up a place, by a price or by a level's number, and then writes or
takes away what rests there.  A place found by price splits an ordered ladder into
the levels ahead of the price and those behind it, and what rests in between has
the price (`Ladder.place_at`).  There is one such place only, so it does not
matter how it is searched for: whoever finds a level at the price, or else a gap
between the levels ahead of it and those behind it, has found it
(`Ladder.place_unique`).  A place found by number has the first level with the
number (`Ladder.placeOfId_ofId`).
-/
import Mathlib.Data.List.TakeDrop
import Mathlib.Data.List.TakeWhile
import MarketDepth.Ladder

namespace MarketDepth

/-! ### Which price stands nearer the top -/

namespace Side

variable {s : Side} {a b c d : Decimal}

theorem Ahead.trans (h : s.Ahead a b) (h' : s.Ahead b c) : s.Ahead a c := by
  cases s with
  | bid => exact Int.lt_trans h' h
  | ask => exact Int.lt_trans h h'

theorem Ahead.asymm (h : s.Ahead a b) : ¬s.Ahead b a := by
  cases s with
  | bid => exact Int.lt_asymm h
  | ask => exact Int.lt_asymm h

theorem Ahead.not_equiv (h : s.Ahead a b) : ¬a ≈ b := by
  intro he
  cases s with
  | bid => exact Int.ne_of_gt h he
  | ask => exact Int.ne_of_lt h he

/-- The order looks at values only. -/
theorem ahead_congr (hac : a ≈ c) (hbd : b ≈ d) : s.Ahead a b ↔ s.Ahead c d := by
  rw [Decimal.equiv_iff] at hac hbd
  cases s with
  | bid =>
    show b.units < a.units ↔ d.units < c.units
    rw [hac, hbd]
  | ask =>
    show a.units < b.units ↔ c.units < d.units
    rw [hac, hbd]

/-- Of two prices with different values one stands ahead of the other. -/
theorem ahead_of_not_ahead (h : ¬s.Ahead a b) (hne : ¬a ≈ b) : s.Ahead b a := by
  rw [Decimal.equiv_iff] at hne
  cases s with
  | bid =>
    have h : ¬b.units < a.units := h
    show a.units < b.units
    omega
  | ask =>
    have h : ¬a.units < b.units := h
    show b.units < a.units
    omega

/-- What does not stand ahead of the further of two prices is behind the nearer one. -/
theorem Ahead.trans_not (h : s.Ahead a b) (h' : ¬s.Ahead c b) : s.Ahead a c := by
  cases s with
  | bid => exact Int.lt_of_le_of_lt (Int.not_lt.mp h') h
  | ask => exact Int.lt_of_lt_of_le h (Int.not_lt.mp h')

end Side

/-- Levels in strict order, the one nearest the top first. -/
def Levels.Ordered (side : Side) (levels : List Level) : Prop :=
  levels.Pairwise fun a b => side.Ahead a.price b.price

instance (side : Side) (levels : List Level) : Decidable (Levels.Ordered side levels) :=
  inferInstanceAs (Decidable (levels.Pairwise fun a b => side.Ahead a.price b.price))

/-! ### Places -/

namespace Place

variable {p q : Place} {side : Side} {price : Decimal} {x l : Level}

/-- The levels ahead of the place, at it, and behind it. -/
def levels (p : Place) : List Level := p.ahead ++ (p.resting.toList ++ p.behind)

theorem levels_of_some (h : p.resting = some x) : p.levels = p.ahead ++ x :: p.behind := by
  rw [levels, h]
  rfl

theorem levels_of_none (h : p.resting = none) : p.levels = p.cleared := by
  rw [levels, h]
  rfl

theorem cleared_sublist (p : Place) : p.cleared.Sublist p.levels :=
  (List.sublist_append_right p.resting.toList p.behind).append_left p.ahead

theorem mem_levels_of_some (h : p.resting = some x) : x ∈ p.levels := by
  rw [levels_of_some h]
  exact List.mem_append_right p.ahead List.mem_cons_self

theorem mem_put {y : Level} : y ∈ p.put l ↔ y = l ∨ y ∈ p.cleared := by
  rw [put, cleared, List.mem_append, List.mem_cons, List.mem_append]
  exact or_left_comm

theorem length_put (p : Place) (l : Level) : (p.put l).length = p.cleared.length + 1 := by
  simp only [put, cleared, List.length_append, List.length_cons]
  omega

theorem length_levels (p : Place) :
    p.levels.length = p.cleared.length + p.resting.toList.length := by
  simp only [levels, cleared, List.length_append]
  omega

/-- The place is that of a price: the levels ahead of it stand ahead of the price,
those behind it stand behind the price, and what rests there has the price. -/
structure At (p : Place) (side : Side) (price : Decimal) : Prop where
  ahead : ∀ x ∈ p.ahead, side.Ahead x.price price
  resting : ∀ x ∈ p.resting, x.price ≈ price
  behind : ∀ x ∈ p.behind, side.Ahead price x.price

/-- Among levels in order, a place at which a level rests is that of its price. -/
theorem at_of_resting (hordered : Levels.Ordered side p.levels) (hx : p.resting = some x)
    (hprice : x.price ≈ price) : p.At side price := by
  rw [levels_of_some hx, Levels.Ordered, List.pairwise_append, List.pairwise_cons] at hordered
  obtain ⟨-, ⟨hbehind, -⟩, hahead⟩ := hordered
  constructor
  · intro y hy
    exact (Side.ahead_congr (Setoid.refl _) hprice).mp (hahead y hy x List.mem_cons_self)
  · intro y hy
    rw [hx] at hy
    obtain rfl := Option.some.inj hy
    exact hprice
  · intro y hy
    exact (Side.ahead_congr hprice (Setoid.refl _)).mp (hbehind y hy)

/-- Two places of one price among the same levels have the same levels ahead. -/
theorem At.ahead_eq (hp : p.At side price) (hq : q.At side price) (h : p.levels = q.levels) :
    p.ahead = q.ahead := by
  -- both are the levels that stand ahead of the price
  have hall : ∀ {r : Place}, r.At side price →
      r.levels.filter (fun x => side.Ahead x.price price) = r.ahead := by
    intro r hr
    have hrest : ∀ x ∈ r.resting.toList ++ r.behind, ¬side.Ahead x.price price := by
      intro x hx
      rcases List.mem_append.mp hx with hx | hx
      · intro hahead
        exact hahead.not_equiv (hr.resting x (Option.mem_toList.mp hx))
      · exact (hr.behind x hx).asymm
    rw [levels, List.filter_append, List.filter_eq_self.mpr, List.filter_eq_nil_iff.mpr,
      List.append_nil]
    · intro x hx
      rw [decide_eq_true_eq]
      exact hrest x hx
    · intro x hx
      exact decide_eq_true (hr.ahead x hx)
  rw [← hall hp, ← hall hq, h]

theorem At.unique (hp : p.At side price) (hq : q.At side price) (h : p.levels = q.levels) :
    p = q := by
  have hahead := hp.ahead_eq hq h
  have htail : p.resting.toList ++ p.behind = q.resting.toList ++ q.behind := by
    rw [levels, levels, hahead] at h
    exact List.append_cancel_left h
  -- a level at the price is not one behind it
  have hnot : ∀ {x : Level} {r : Place}, x.price ≈ price → r.At side price → x ∉ r.behind := by
    intro x r hx hr hmem
    exact (hr.behind x hmem).not_equiv (Setoid.symm hx)
  obtain ⟨pa, pr, pb⟩ := p
  obtain ⟨qa, qr, qb⟩ := q
  obtain rfl : pa = qa := hahead
  cases pr with
  | none =>
    cases qr with
    | none =>
      obtain rfl : pb = qb := htail
      rfl
    | some y =>
      refine absurd ?_ (hnot (hq.resting y rfl) hp)
      show y ∈ pb
      obtain rfl : pb = y :: qb := htail
      exact List.mem_cons_self
  | some x =>
    cases qr with
    | none =>
      refine absurd ?_ (hnot (hp.resting x rfl) hq)
      show x ∈ qb
      obtain rfl : x :: pb = qb := htail
      exact List.mem_cons_self
    | some y =>
      obtain ⟨rfl, rfl⟩ : x = y ∧ pb = qb := List.cons.inj htail
      rfl

/-- The place is that of a number: no level ahead of it has the number, what rests
there has it, and if nothing rests there the place is behind all levels. -/
structure OfId (p : Place) (id : Int) : Prop where
  ahead : ∀ x ∈ p.ahead, x.id ≠ some id
  resting : ∀ x ∈ p.resting, x.id = some id
  absent : p.resting = none → p.behind = []

end Place

/-- Where levels are split by a test, those ahead pass it, and the one behind them
does not. -/
theorem exists_span_eq (q : Level → Bool) (levels : List Level) :
    ∃ ahead rest, levels.span q = (ahead, rest) ∧ levels = ahead ++ rest ∧
      (∀ x ∈ ahead, q x = true) ∧ ∀ x ∈ rest.head?, q x = false := by
  refine ⟨levels.takeWhile q, levels.dropWhile q, levels.span_eq_takeWhile_dropWhile q,
    List.takeWhile_append_dropWhile.symm, fun x hx => List.mem_takeWhile_imp hx, ?_⟩
  intro x hx
  have hhead := levels.head?_dropWhile_not q
  rw [Option.mem_def.mp hx] at hhead
  exact Bool.eq_false_iff.mpr fun h => by simp [h] at hhead

namespace Ladder

variable {l : Ladder} {p : Place} {price : Decimal}

/-! ### Places found by price -/

theorem place_levels (l : Ladder) (price : Decimal) : (l.place price).levels = l.levels := by
  obtain ⟨ahead, rest, hspan, hlevels, -, -⟩ :=
    exists_span_eq (fun x => l.side.Ahead x.price price) l.levels
  rw [place, hspan, hlevels]
  cases rest with
  | nil => rfl
  | cons x behind =>
    dsimp only
    split <;> rfl

theorem place_at (hordered : Levels.Ordered l.side l.levels) (price : Decimal) :
    (l.place price).At l.side price := by
  obtain ⟨ahead, rest, hspan, hlevels, hahead, hrest⟩ :=
    exists_span_eq (fun x => l.side.Ahead x.price price) l.levels
  simp only [decide_eq_true_eq] at hahead
  rw [place, hspan]
  cases rest with
  | nil => exact ⟨hahead, by simp, by simp⟩
  | cons x behind =>
    have hx : ¬l.side.Ahead x.price price := of_decide_eq_false (hrest x rfl)
    have hbehind : ∀ y ∈ behind, l.side.Ahead x.price y.price := by
      rw [hlevels, Levels.Ordered, List.pairwise_append, List.pairwise_cons] at hordered
      exact hordered.2.1.1
    dsimp only
    split
    · next heq =>
      refine ⟨hahead, ?_, ?_⟩
      · intro y hy
        obtain rfl := Option.some.inj hy
        exact heq
      · intro y hy
        exact (Side.ahead_congr heq (Setoid.refl _)).mp (hbehind y hy)
    · next hne =>
      have hgap : l.side.Ahead price x.price := Side.ahead_of_not_ahead hx hne
      refine ⟨hahead, by simp, ?_⟩
      intro y hy
      rcases List.mem_cons.mp hy with rfl | hy
      · exact hgap
      · exact hgap.trans (hbehind y hy)

/-- However a price is searched for in an ordered ladder, its place is found: a
level at the price is the one there, and so is a gap between the levels ahead of
the price and those behind it. -/
theorem place_unique (hordered : Levels.Ordered l.side l.levels) (hlevels : p.levels = l.levels)
    (hresting : ∀ x ∈ p.resting, x.price ≈ price)
    (hgap : p.resting = none → (∀ x ∈ p.ahead, l.side.Ahead x.price price) ∧
      ∀ x ∈ p.behind, l.side.Ahead price x.price) : p = l.place price := by
  have hat : p.At l.side price := by
    cases hp : p.resting with
    | none =>
      obtain ⟨hahead, hbehind⟩ := hgap hp
      exact ⟨hahead, hresting, hbehind⟩
    | some x =>
      rw [← hlevels] at hordered
      exact Place.at_of_resting hordered hp (hresting x hp)
  exact hat.unique (place_at hordered price) (hlevels.trans (l.place_levels price).symm)

/-! ### Places found by number -/

theorem placeOfId_levels (l : Ladder) (id : Int) : (l.placeOfId id).levels = l.levels := by
  obtain ⟨ahead, rest, hspan, hlevels, -, -⟩ := exists_span_eq (fun x => x.id != some id) l.levels
  rw [placeOfId, hspan, hlevels]
  cases rest <;> rfl

theorem placeOfId_ofId (l : Ladder) (id : Int) : (l.placeOfId id).OfId id := by
  obtain ⟨ahead, rest, hspan, -, hahead, hrest⟩ :=
    exists_span_eq (fun x => x.id != some id) l.levels
  simp only [bne_iff_ne] at hahead
  rw [placeOfId, hspan]
  cases rest with
  | nil => exact ⟨hahead, by simp, fun _ => rfl⟩
  | cons x behind =>
    refine ⟨hahead, ?_, by simp⟩
    intro y hy
    obtain rfl := Option.some.inj hy
    exact bne_eq_false_iff_eq.mp (hrest x rfl)

end Ladder

end MarketDepth
