/-
MarketDepth/Proofs/Ladder/Moments.lean

The moments of an edit.

Most edits of a ladder move a single node and are over at once.  An insertion by number first
takes away the level that had the number; a level that is moved is in no ladder until it
stands at its new place; and a ladder that is filled again hands back all its nodes before
it draws the first one.  The moments of an edit are those at which a node has just come or
gone, or the levels have changed, with what the pool was asked for.

They are a course from the pool before the edit to the pool after it
(`Ladder.apply_course`, `Ladder.refill_course`).
-/
import MarketDepth.Proofs.Pool.Course

namespace MarketDepth

open Pool (Access)

/-- What a pool is asked when the level at a place goes. -/
def Place.returned (p : Place) (now : Instant) : Option (Access × Instant) :=
  p.resting.map fun x => (.handBack x, now)

/-- What a pool is asked when a level comes to a place, where it takes the node of the one
that rests there. -/
def Place.drawn (p : Place) (now : Instant) : Option (Access × Instant) :=
  match p.resting with
  | some _ => none
  | none => some (.draw, now)

namespace Ladder

variable {l : Ladder} {pool : Pool} {now : Instant} {place : Place} {level : Level}

/-- The moment after an edit. -/
def Edited.after (r : Edited) (asked : Option (Access × Instant)) : Moment Ladder :=
  ⟨r.1, r.2, asked⟩

/-! ### Edits of one level -/

def setPriceMoment (l : Ladder) (level : Level) (pool : Pool) (now : Instant) : Moment Ladder :=
  (l.setPrice level pool now).after
    (if level.amount.IsZero then (l.place level.price).returned now
      else (l.place level.price).drawn now)

def insertMoments (l : Ladder) (level : Level) (pool : Pool) (now : Instant) :
    List (Moment Ladder) :=
  let r : Edited := l.withoutId pool now level.id
  [r.after (level.id.bind fun id => (l.placeOfId id).returned now),
    (l.insertId level pool now).after
      (if level.amount.IsZero then none else (r.1.place level.price).drawn now)]

/-- A level that is moved leaves its place with its node, which is left over if another level
rests at the new place. -/
def amendMoments (l : Ladder) (id : Int) (level : Level) (pool : Pool) (now : Instant) :
    List (Moment Ladder) :=
  let place := l.placeOfId id
  match l.amendId id level pool now, place.resting with
  | .ok r, some x =>
    if level.amount.IsZero then [r.after (place.returned now)]
    else if x.price ≈ level.price then [r.after none]
    else
      let cleared := { l with levels := place.cleared }
      [⟨cleared, pool, none⟩,
        r.after ((cleared.place level.price).resting.map fun _ =>
          (.handBack { level with id := some id }, now))]
  | _, _ => []

def applyMoments (l : Ladder) (addressing : Addressing) (action : Action) (pool : Pool)
    (now : Instant) : List (Moment Ladder) :=
  match action with
  | .insert level =>
    if addressing = .id ∧ level.id.isSome then l.insertMoments level pool now
    else [l.setPriceMoment level pool now]
  | .amend level =>
    match addressing, level.id with
    | .id, some id => l.amendMoments id level pool now
    | _, _ => [l.setPriceMoment level pool now]
  | .delete (.price price) => [(l.removePrice price pool now).after ((l.place price).returned now)]
  | .delete (.id id) => [(l.removeId id pool now).after ((l.placeOfId id).returned now)]

/-- The pool of an edit after which as many nodes are out, but not in the ladder, as before. -/
theorem Edited.course {r : Edited} {asked : Option (Access × Instant)}
    (hask : r.2 = pool.ask asked) (hout : r.1.elsewhere r.2 = l.elsewhere pool) :
    Course size (l.elsewhere pool) pool [r.after asked] r.2 :=
  .single (x := r.after asked) hask hout

theorem vacate_ask (l : Ladder) (place : Place) (pool : Pool) (now : Instant) :
    (l.vacate place pool now).2 = pool.ask (place.returned now) := by
  unfold vacate Place.returned
  cases place.resting <;> rfl

theorem setPrice_course (l : Ladder) (level : Level) (pool : Pool) (now : Instant) :
    Course size (l.elsewhere pool) pool [l.setPriceMoment level pool now]
      (l.setPrice level pool now).2 := by
  refine Edited.course ?_ (l.setPrice_elsewhere pool now level)
  unfold setPrice
  split
  · exact l.vacate_ask _ pool now
  · unfold Place.drawn
    dsimp only
    cases (l.place level.price).resting <;> rfl

theorem putAt_course (l : Ladder) (level : Level) (pool : Pool) (now : Instant) :
    Course size (l.elsewhere pool) pool
      [(l.putAt pool now level).after
        (if level.amount.IsZero then none else (l.place level.price).drawn now)]
      (l.putAt pool now level).2 := by
  refine Edited.course ?_ (l.putAt_elsewhere pool now level)
  unfold putAt
  split
  · rfl
  · unfold Place.drawn
    cases (l.place level.price).resting <;> rfl

theorem insert_course (l : Ladder) (level : Level) (pool : Pool) (now : Instant) :
    Course size (l.elsewhere pool) pool (l.insertMoments level pool now)
      (l.insertId level pool now).2 := by
  have hask : (l.withoutId pool now level.id).2 =
      pool.ask (level.id.bind fun id => (l.placeOfId id).returned now) := by
    cases level.id with
    | none => rfl
    | some id => exact l.vacate_ask _ pool now
  have hout := l.withoutId_elsewhere pool now level.id
  have hput := (l.withoutId pool now level.id).1.putAt_course level
    (l.withoutId pool now level.id).2 now
  rw [hout] at hput
  rw [insertMoments, insertId_eq_putAt]
  exact (Edited.course hask hout).append hput

theorem amend_course {id : Int} {r : Edited} (h : l.amendId id level pool now = .ok r) :
    Course size (l.elsewhere pool) pool (l.amendMoments id level pool now) r.2 := by
  have hout := amendId_elsewhere h
  rw [amendMoments]
  simp only [h]
  unfold amendId at h
  dsimp only at h
  cases hx : (l.placeOfId id).resting with
  | none => simp [hx] at h
  | some x =>
    simp only [hx] at h ⊢
    split at h
    · next hzero =>
      rw [if_pos hzero]
      obtain rfl := Except.ok.inj h
      exact Edited.course (l.vacate_ask _ pool now) hout
    · next hzero =>
      rw [if_neg hzero]
      split at h
      · next hsame =>
        rw [if_pos hsame]
        obtain rfl := Except.ok.inj h
        exact Edited.course rfl hout
      · next hsame =>
        rw [if_neg hsame]
        -- the level is in no ladder, with a node that was not drawn
        refine .next (p := pool) rfl ?_ (fun hdraws => absurd hdraws (Nat.lt_irrefl 0)) ?_
        · have hlength := (l.placeOfId id).length_levels
          rw [l.placeOfId_levels id, hx] at hlength
          simp only [Option.toList_some, List.length_singleton] at hlength
          simp only [Moment.elsewhere, elsewhere, size]
          omega
        · refine Edited.course (l := l) ?_ hout
          split at h
          · next y hy =>
            obtain rfl := Except.ok.inj h
            rw [hy]
            rfl
          · next hnone =>
            obtain rfl := Except.ok.inj h
            rw [hnone]
            rfl

theorem apply_course {addressing : Addressing} {action : Action} {r : Edited}
    (h : l.apply addressing action pool now = .ok r) :
    Course size (l.elsewhere pool) pool (l.applyMoments addressing action pool now) r.2 := by
  cases action with
  | insert level =>
    rw [apply] at h
    rw [applyMoments]
    split at h
    · next hid =>
      rw [if_pos hid]
      obtain rfl := Except.ok.inj h
      exact l.insert_course level pool now
    · next hid =>
      rw [if_neg hid]
      obtain rfl := Except.ok.inj h
      exact l.setPrice_course level pool now
  | amend level =>
    unfold apply at h
    unfold applyMoments
    dsimp only at h ⊢
    cases addressing with
    | price =>
      obtain rfl := Except.ok.inj h
      exact l.setPrice_course level pool now
    | id =>
      cases hid : level.id with
      | none =>
        rw [hid] at h
        dsimp only at h ⊢
        obtain rfl := Except.ok.inj h
        exact l.setPrice_course level pool now
      | some id =>
        rw [hid] at h
        dsimp only at h ⊢
        exact amend_course h
  | delete address =>
    cases address with
    | price price =>
      obtain rfl := Except.ok.inj h
      exact Edited.course (l.vacate_ask _ pool now)
        (l.vacate_elsewhere pool now (l.place_levels price))
    | id id =>
      obtain rfl := Except.ok.inj h
      exact Edited.course (l.vacate_ask _ pool now)
        (l.vacate_elsewhere pool now (l.placeOfId_levels id))

/-! ### Filling a ladder again -/

/-- The levels come one after the other, each behind those that have come. -/
def fillMoments (l : Ladder) (pool : Pool) (now : Instant) : List Level → List (Moment Ladder)
  | [] => []
  | level :: rest =>
    let (node, pool) := pool.draw now
    let l := { l with levels := l.levels ++ [node.overwrite level] }
    ⟨l, pool, some (.draw, now)⟩ :: l.fillMoments pool now rest

def refillMoments (l : Ladder) (levels : List Level) (pool : Pool) (now : Instant) :
    List (Moment Ladder) :=
  let r : Edited := l.vacateAll pool now
  r.after (some (.handBackAll l.levels, now)) :: r.1.fillMoments r.2 now levels

theorem fill_course (l : Ladder) (levels : List Level) (pool : Pool) (now : Instant) :
    Course size (l.elsewhere pool) pool (l.fillMoments pool now levels)
      (fill levels pool now).2 := by
  induction levels generalizing l pool with
  | nil => exact .done pool
  | cons level rest ih =>
    have hout : elsewhere { l with levels := l.levels ++ [(pool.draw now).1.overwrite level] }
        (pool.draw now).2 = l.elsewhere pool := by
      simp only [elsewhere, size, Pool.lent_draw, List.length_append, List.length_singleton]
      omega
    rw [← hout]
    exact .next rfl (Int.le_refl _) (fun _ => rfl) (ih _ _)

theorem refill_course (l : Ladder) (levels : List Level) (pool : Pool) (now : Instant) :
    Course size (l.elsewhere pool) pool (l.refillMoments levels pool now)
      (l.refill levels pool now).2 := by
  have hout : (l.vacateAll pool now).1.elsewhere (l.vacateAll pool now).2 = l.elsewhere pool := by
    simp only [vacateAll, elsewhere, size, Pool.lent_handBackAll, List.length_nil]
    omega
  rw [← hout]
  exact .next rfl (Int.le_refl _) (fun _ => rfl) (fill_course _ levels _ now)

end Ladder

end MarketDepth
