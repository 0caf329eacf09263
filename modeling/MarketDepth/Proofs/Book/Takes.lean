/-
MarketDepth/Proofs/Book/Takes.lean

Messages taken one after the other.

`b.Takes d b'` says that the book takes the message `d` whole and is `b'` then;
`b.FailsOn d b' reason` says that it does not, for a reason that a snapshot
heals, and is `b'` then.  Neither mentions the pool: nodes leave no trace, so
both are functional in the book and the message.  `b.TakesAll ds b'` chains the
first one over a list.

Main results: `Book.takesAll_or_stops`, that a list of valid messages is either
taken whole or splits at the first one that fails, and `Book.TakesAll.ids`, that
in a strictly numbered book the messages that are taken bear consecutive
numbers.
-/
import MarketDepth.Proofs.Book.Messages

namespace MarketDepth.Book

variable {b b₁ b' b'' : Book} {d : Delta} {ds es : List Delta} {reason reason' : Desync}

/-! ### One message -/

/-- The book takes a message whole and is `b'` then. -/
def Takes (b : Book) (d : Delta) (b' : Book) : Prop :=
  ∀ pool now, (b.applyDelta d pool now).result = (b', none)

/-- The book does not take a message, for a reason that a snapshot heals, and is
`b'` then. -/
def FailsOn (b : Book) (d : Delta) (b' : Book) (reason : Desync) : Prop :=
  ∃ e, Desync.ofError? e = some reason ∧
    ∀ pool now, (b.applyDelta d pool now).result = (b', some e)

theorem takes_of_error_none {pool : Pool} {now : Instant}
    (h : (b.applyDelta d pool now).error = none) :
    b.Takes d (b.applyDelta d pool now).book := by
  intro pool' now'
  rw [b.applyDelta_result_eq pool' pool now' now d]
  exact Prod.ext rfl h

theorem failsOn_of_error_some {pool : Pool} {now : Instant} {e : BookError}
    (h : (b.applyDelta d pool now).error = some e) (hheal : Desync.ofError? e = some reason) :
    b.FailsOn d (b.applyDelta d pool now).book reason := by
  refine ⟨e, hheal, fun pool' now' => ?_⟩
  rw [b.applyDelta_result_eq pool' pool now' now d]
  exact Prod.ext rfl h

/-- A restored book either takes a valid message or fails on it. -/
theorem takes_or_failsOn (hb : b.restored = true) (hv : checkChanges d.changes = .ok ()) :
    (∃ b', b.Takes d b') ∨ ∃ b' reason, b.FailsOn d b' reason := by
  -- any pool will do
  cases h : (b.applyDelta d (.empty 0) 0).error with
  | none => exact .inl ⟨_, takes_of_error_none h⟩
  | some e =>
    obtain ⟨reason, hheal⟩ | ⟨-, hcheck, -⟩ := applyDelta_error_cases hb h
    · exact .inr ⟨_, reason, failsOn_of_error_some h hheal⟩
    · rw [hv] at hcheck
      cases hcheck

namespace Takes

theorem unique (h : b.Takes d b') (h' : b.Takes d b'') : b' = b'' := by
  have e := (h (.empty 0) 0).symm.trans (h' (.empty 0) 0)
  exact congrArg Prod.fst e

theorem error (h : b.Takes d b') (pool : Pool) (now : Instant) :
    (b.applyDelta d pool now).error = none := congrArg Prod.snd (h pool now)

theorem book (h : b.Takes d b') (pool : Pool) (now : Instant) :
    (b.applyDelta d pool now).book = b' := congrArg Prod.fst (h pool now)

theorem frame (h : b.Takes d b') : Frame b b' := by
  rw [← h.book (.empty 0) 0]
  exact applyDelta_frame d

theorem not_failsOn (h : b.Takes d b') : ¬b.FailsOn d b'' reason := by
  rintro ⟨e, -, h'⟩
  have := (h (.empty 0) 0).symm.trans (h' (.empty 0) 0)
  simp at this

end Takes

namespace FailsOn

theorem unique (h : b.FailsOn d b' reason) (h' : b.FailsOn d b'' reason') :
    b' = b'' ∧ reason = reason' := by
  obtain ⟨e, hheal, hr⟩ := h
  obtain ⟨e', hheal', hr'⟩ := h'
  have heq := (hr (.empty 0) 0).symm.trans (hr' (.empty 0) 0)
  simp only [Prod.mk.injEq, Option.some.injEq] at heq
  obtain ⟨rfl, rfl⟩ := heq
  exact ⟨rfl, Option.some.inj (hheal.symm.trans hheal')⟩

theorem error (h : b.FailsOn d b' reason) (pool : Pool) (now : Instant) :
    ∃ e, (b.applyDelta d pool now).error = some e ∧ Desync.ofError? e = some reason := by
  obtain ⟨e, hheal, hr⟩ := h
  exact ⟨e, congrArg Prod.snd (hr pool now), hheal⟩

theorem book (h : b.FailsOn d b' reason) (pool : Pool) (now : Instant) :
    (b.applyDelta d pool now).book = b' := by
  obtain ⟨e, -, hr⟩ := h
  exact congrArg Prod.fst (hr pool now)

theorem frame (h : b.FailsOn d b' reason) : Frame b b' := by
  rw [← h.book (.empty 0) 0]
  exact applyDelta_frame d

end FailsOn

/-! ### Messages in turn -/

/-- The book takes messages one after the other, each of them whole, and is `b'`
then. -/
inductive TakesAll : Book → List Delta → Book → Prop
  | nil (b : Book) : TakesAll b [] b
  | cons {b b₁ b' : Book} {d : Delta} {ds : List Delta} :
      b.Takes d b₁ → TakesAll b₁ ds b' → TakesAll b (d :: ds) b'

namespace TakesAll

theorem append (h : b.TakesAll ds b₁) (h' : b₁.TakesAll es b') : b.TakesAll (ds ++ es) b' := by
  induction h with
  | nil b => exact h'
  | cons hd _ ih => exact .cons hd (ih h')

theorem concat (h : b.TakesAll ds b₁) (hd : b₁.Takes d b') : b.TakesAll (ds ++ [d]) b' :=
  h.append (.cons hd (.nil b'))

theorem frame (h : b.TakesAll ds b') : Frame b b' := by
  induction h with
  | nil b => exact .refl b
  | cons hd _ ih => exact hd.frame.trans ih

/-- In a strictly numbered book the messages that are taken bear consecutive
numbers, the last of which is that of the book. -/
theorem ids (hs : b.options.numbering = .strict) (h : b.TakesAll ds b') :
    ds.map (·.id) = (List.range ds.length).map (fun i : Nat => b.lastId + 1 + i) ∧
      b'.lastId = b.lastId + ds.length := by
  induction h with
  | nil b => simp
  | @cons b b₁ b' d ds hd _ ih =>
    obtain ⟨hid, hlast⟩ := applyDelta_lastId_strict hs (hd.error (.empty 0) 0)
    rw [hd.book] at hlast
    have hs₁ : b₁.options.numbering = .strict := by
      rw [hd.frame.options]
      exact hs
    obtain ⟨hids, hend⟩ := ih hs₁
    constructor
    · rw [List.length_cons, List.range_succ_eq_map, List.map_cons, List.map_cons, hids,
        List.map_map]
      congr 1
      · simp [hid]
      · apply List.map_congr_left
        intro i _
        simp only [Function.comp_apply, hlast, hid, Nat.succ_eq_add_one]
        omega
    · rw [hend, hlast, hid, List.length_cons]
      omega

end TakesAll

/-- A restored book either takes valid messages one after the other, or takes
those before one on which it fails. -/
theorem takesAll_or_stops (hb : b.restored = true)
    (hv : ∀ d ∈ ds, checkChanges d.changes = .ok ()) :
    (∃ b', b.TakesAll ds b') ∨
      ∃ done d rest b₁ b' reason, ds = done ++ d :: rest ∧
        b.TakesAll done b₁ ∧ b₁.FailsOn d b' reason := by
  induction ds generalizing b with
  | nil => exact .inl ⟨b, .nil b⟩
  | cons d ds ih =>
    obtain ⟨hd, hds⟩ := List.forall_mem_cons.mp hv
    obtain ⟨b₁, h₁⟩ | ⟨b', reason, h₁⟩ := takes_or_failsOn hb hd
    · have hb₁ : b₁.restored = true := by
        rw [h₁.frame.restored]
        exact hb
      obtain ⟨b', h'⟩ | ⟨done, e, rest, b₂, b', reason, rfl, hdone, hfail⟩ := ih hb₁ hds
      · exact .inl ⟨b', .cons h₁ h'⟩
      · exact .inr ⟨d :: done, e, rest, b₂, b', reason, rfl, .cons h₁ hdone, hfail⟩
    · exact .inr ⟨[], d, ds, b, b', reason, rfl, .nil b, h₁⟩

/-! ### A book built from a snapshot -/

/-- The book after the changes of messages applied one after the other; `none`
if one of them fails.  Checksums are not looked at. -/
def applyAll? (b : Book) (pool : Pool) (now : Instant) : List Delta → Option Book
  | [] => some b
  | d :: ds =>
    let r := b.apply d.id d.changes pool now
    match r.error with
    | none => r.book.applyAll? r.pool now ds
    | some _ => none

theorem TakesAll.applyAll?_eq (h : b.TakesAll ds b') (pool : Pool) (now : Instant) :
    b.applyAll? pool now ds = some b' := by
  induction h generalizing pool with
  | nil b => rfl
  | @cons b b₁ b' d ds hd _ ih =>
    have hbook := hd.book pool now
    rw [applyDelta_book] at hbook
    unfold applyAll?
    simp only [apply_error_of_applyDelta (hd.error pool now), hbook]
    exact ih _

/-- The book that a snapshot and messages after it make of an empty book. -/
def rebuild? (key : Key) (options : Options) (s : Snapshot) (ds : List Delta) (pool : Pool)
    (now : Instant) : Option Book :=
  match (Book.empty key options).restore s.bids s.asks s.id pool now with
  | .ok (b, pool) => b.applyAll? pool now ds
  | .error _ => none

theorem TakesAll.rebuild?_eq {key : Key} {options : Options} {s : Snapshot}
    (hload : (Book.empty key options).load s = .ok b) (h : b.TakesAll ds b') (pool : Pool)
    (now : Instant) : rebuild? key options s ds pool now = some b' := by
  unfold rebuild?
  rw [← restore_map_fst (Book.empty key options) pool now s] at hload
  cases hr : (Book.empty key options).restore s.bids s.asks s.id pool now with
  | error e => simp [hr, Except.map] at hload
  | ok r =>
    simp only [hr, Except.map, Except.ok.injEq] at hload
    subst hload
    exact h.applyAll?_eq r.2 now

end MarketDepth.Book
