/-
MarketDepth/Proofs/Book/Fits.lean

Numbers of 64 bits.

The numbers of messages and of levels have 64 bits.  So have then the last number of a book
and those of its levels: none of them is computed, each one came with a message
(`Book.run_fits`).
-/
import MarketDepth.Proofs.Book.Calls
import MarketDepth.Proofs.Book.Intake

namespace MarketDepth

/-- The numbers that messages and levels can have. -/
def IdFits (i : Int) : Prop := -(twoPow 63 : Int) ≤ i ∧ i ≤ twoPow 63 - 1

instance (i : Int) : Decidable (IdFits i) := inferInstanceAs (Decidable (_ ∧ _))

/-- The number of the level fits, if it has one. -/
def Level.Fits (l : Level) : Prop := ∀ i ∈ l.id, IdFits i

instance (l : Level) : Decidable l.Fits := inferInstanceAs (Decidable (∀ _ ∈ l.id, _))

/-! ### Ladders -/

namespace Ladder

variable {l l' : Ladder} {addressing : Addressing} {action : Action} {level : Level}

/-- The numbers of all levels fit. -/
def Fits (l : Ladder) : Prop := ∀ x ∈ l.levels, x.Fits

theorem Fits.clear {p : Place} (h : l.Fits) (hlevels : p.levels = l.levels) : (l.clear p).Fits := by
  intro x hx
  have hmem := p.cleared_sublist.subset hx
  rw [hlevels] at hmem
  exact h x hmem

theorem Fits.write {p : Place} (h : l.Fits) (hlevels : p.levels = l.levels)
    (hlevel : level.Fits) : (l.write p level).Fits := by
  intro x hx
  rcases Place.mem_put.mp hx with rfl | hx
  · exact hlevel
  · exact h.clear hlevels x hx

theorem Fits.resting {p : Place} {x : Level} (h : l.Fits) (hlevels : p.levels = l.levels)
    (hx : p.resting = some x) : x.Fits := by
  have hmem := Place.mem_levels_of_some hx
  rw [hlevels] at hmem
  exact h x hmem

/-- A level that is set at a price has the number that it came with, or that of the level
that rested there. -/
theorem Fits.written {p : Place} (h : l.Fits) (hlevels : p.levels = l.levels)
    (hlevel : level.Fits) : (p.written level).Fits := by
  rw [Place.written]
  split
  · next x hx =>
    intro i hi
    rcases Option.or_eq_some_iff.mp hi with hi | ⟨-, hi⟩
    · exact hlevel i hi
    · exact h.resting hlevels hx i hi
  · exact hlevel

/-- Every edit that sets only levels with numbers that fit keeps it so. -/
theorem Edit.fits (h : l.Fits) (hsets : ∀ level, action.Sets level → level.Fits)
    (he : l.Edit addressing action l') : l'.Fits := by
  cases he with
  | deletedPrice price => exact h.clear (l.place_levels price)
  | deletedId id => exact h.clear (l.placeOfId_levels id)
  | clearedPrice => exact h.clear (l.place_levels _)
  | clearedId => exact h.clear (l.placeOfId_levels _)
  | @setPrice action level sets =>
    exact h.write (l.place_levels _) (h.written (l.place_levels _) (hsets level sets))
  | @amendedId level x id _ _ _ resting =>
    -- the level keeps its number
    have hx : x.Fits := h.resting (l.placeOfId_levels id) resting
    exact h.write (l.placeOfId_levels id) fun i hi => hx i hi
  | @placedId action level id sets =>
    exact (h.clear (l.placeOfId_levels id)).write (place_levels _ _) (hsets level sets)

end Ladder

/-! ### Books -/

theorem Levels.mem_of_mem_arrange {side : Side} {levels : List Level} {l : Level}
    (h : l ∈ arrange side levels) : l ∈ levels := by
  have hmem := (mergeSame_sublist _).subset h
  rw [List.mem_mergeSort] at hmem
  exact (List.mem_filter.mp hmem).1

namespace Book

variable {b : Book} {a : Call}

/-- A snapshot brings in no other levels than its own. -/
theorem mem_of_mem_intake {side : Side} {levels levels' : List Level} {l : Level}
    (h : b.intake side levels = .ok levels') (hl : l ∈ levels') : l ∈ levels := by
  cases hverify : b.options.verify with
  | true =>
    rw [intake_of_verified hverify] at h
    cases hcheck : Levels.check side levels with
    | error fault => simp [hcheck, Except.map] at h
    | ok u =>
      rw [hcheck] at h
      rwa [← Except.ok.inj h] at hl
  | false =>
    rw [intake_of_unverified hverify] at h
    obtain rfl := Except.ok.inj h
    exact Levels.mem_of_mem_arrange hl

/-- The last number of the book fits, and so do the numbers of its levels. -/
structure Fits (b : Book) : Prop where
  lastId : IdFits b.lastId
  levels : b.EachSide fun _ l => l.Fits

/-- The number of a request fits, and so do those of the levels that it brings. -/
def Request.Fits : Request → Prop
  | .restore bids asks id => IdFits id ∧ ∀ l ∈ bids ++ asks, l.Fits
  | .update side action id => IdFits id ∧ ∀ l ∈ (Change.mk side action).level?, l.Fits
  | .apply id changes => IdFits id ∧ ∀ c ∈ changes, ∀ l ∈ c.level?, l.Fits
  | .invalidate _ | .setVerify _ => True

instance (r : Request) : Decidable r.Fits :=
  match r with
  | .restore _ _ _ | .update _ _ _ | .apply _ _ => inferInstanceAs (Decidable (_ ∧ _))
  | .invalidate _ | .setVerify _ => inferInstanceAs (Decidable True)

theorem fits_kept (addressing : Addressing) :
    KeptBySetting Level.Fits addressing fun _ l => l.Fits := by
  intro side l l' action hsets h hedit
  exact hedit.fits h hsets

/-- The last number is that of the last message, or the greatest one so far. -/
theorem apply_lastId_fits {id : Int} (h : IdFits b.lastId) (hid : IdFits id) (cs : List Change)
    (pool : Pool) (now : Instant) : IdFits (b.apply id cs pool now).book.lastId := by
  unfold apply
  cases b.checkMessage id cs with
  | error e => exact h
  | ok u =>
    obtain ⟨hframe, hlast⟩ := b.applyInTurn_frame pool now cs
    dsimp only
    cases (b.applyInTurn pool now cs).error with
    | some e =>
      dsimp only
      rwa [hlast]
    | none =>
      show IdFits ((b.applyInTurn pool now cs).book.advanceId id)
      unfold advanceId
      split
      · exact hid
      · rw [hlast]
        rcases Int.le_total b.lastId id with hle | hle
        · rwa [Int.max_eq_right hle]
        · rwa [Int.max_eq_left hle]

theorem perform_lastId_fits (h : IdFits b.lastId) (ha : a.request.Fits) :
    IdFits (b.perform a).lastId := by
  obtain ⟨request, pool, now⟩ := a
  cases request with
  | restore bids asks id =>
    obtain ⟨bids', asks', -, hloaded⟩ | ⟨fault, -, hrefused⟩ :=
      perform_restore_cases (b := b) (a := ⟨.restore bids asks id, pool, now⟩) rfl
    · rw [hloaded]
      exact ha.1
    · rwa [hrefused]
  | update side action id => exact apply_lastId_fits h ha.1 _ pool now
  | apply id cs => exact apply_lastId_fits h ha.1 cs pool now
  | invalidate reason => exact h
  | setVerify verify => exact h

/-- A call whose numbers fit keeps it so. -/
theorem perform_fits (h : b.Fits) (ha : a.request.Fits) : (b.perform a).Fits where
  lastId := perform_lastId_fits h.lastId ha
  levels := by
    refine perform_keeps (fits_kept _) (fun _ => ?_) ?_ h.levels
    · obtain ⟨request, pool, now⟩ := a
      cases request with
      | update side action id =>
        intro c hc level hsets
        obtain rfl := List.mem_singleton.mp hc
        exact ha.2 level hsets.level?_eq
      | apply id cs => exact fun c hc level hsets => ha.2 c hc level hsets.level?_eq
      | restore | invalidate | setVerify => exact List.forall_mem_nil _
    · intro bids asks id hrequest bids' asks' hsides
      rw [hrequest] at ha
      obtain ⟨hbids, hasks⟩ := intakeSides_ok hsides
      refine ⟨fun x hx => ha.2 x ?_, fun x hx => ha.2 x ?_⟩
      · exact List.mem_append_left _ (mem_of_mem_intake hbids hx)
      · exact List.mem_append_right _ (mem_of_mem_intake hasks hx)

/-- **The numbers of a book have 64 bits**, as those of all that it was asked have. -/
theorem run_fits (key : Key) (options : Options) {as : List Call}
    (h : ∀ a ∈ as, a.request.Fits) : ((empty key options).run as).Fits := by
  have hzero : IdFits 0 := by decide
  have hnew : (empty key options).Fits := ⟨hzero, by rintro (_ | _) x ⟨⟩⟩
  generalize empty key options = b at hnew ⊢
  induction as generalizing b with
  | nil => exact hnew
  | cons a as ih =>
    obtain ⟨ha, has⟩ := List.forall_mem_cons.mp h
    exact ih has _ (perform_fits hnew ha)

end Book

end MarketDepth
