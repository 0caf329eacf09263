/-
MarketDepth/Proofs/Channel/Lineage.lean

What a book in step has taken since its last snapshot.

Once a snapshot is loaded, the book takes what was held for it and is not covered, in
the order of the numbers, and from then on every message with changes that is not
refused, in the order in which these come; were it to fail on one of them, it would
be out of step until the next snapshot.  `Channel.Grounded` carries this through a
run, however the messages are numbered: the run splits at the snapshot that it loaded
last, and the book is made of what stands there and behind it.

A loosely numbered book looks at the number of a message in one place only, when a
snapshot covers what was held for it.  It takes repeated, falling and negative
numbers; its own number is the greatest that it has met since the snapshot.

Main results: `Channel.run_grounded`, and `Channel.looseView_of_run`.
-/
import MarketDepth.Proofs.Channel.History
import MarketDepth.Proofs.Stability

namespace MarketDepth

/-! ### The order of a drain -/

/-- `drained` is what is held and not covered by the snapshot with number `id`, in the
order of the numbers, and where numbers are equal, in the order in which it came. -/
structure Drained (held : List Delta) (id : Int) (drained : List Delta) : Prop where
  perm : drained.Perm (held.filter (id < ·.id))
  ordered : drained.Pairwise (·.id ≤ ·.id)
  stable : ∀ i, id < i → drained.filter (·.id = i) = held.filter (·.id = i)

/-- Ordered lists are the same if they have the same messages with each number. -/
theorem eq_of_sorted_of_filter {ds es : List Delta} (hds : ds.Pairwise (·.id ≤ ·.id))
    (hes : es.Pairwise (·.id ≤ ·.id))
    (h : ∀ i, ds.filter (·.id = i) = es.filter (·.id = i)) : ds = es := by
  induction ds generalizing es with
  | nil =>
    cases es with
    | nil => rfl
    | cons e es => simpa using h e.id
  | cons d ds ih =>
    cases es with
    | nil => simpa using h d.id
    | cons e es =>
      have hmem : ∀ x, x ∈ d :: ds ↔ x ∈ e :: es := by
        intro x
        have hx : x ∈ (d :: ds).filter (·.id = x.id) ↔ x ∈ (e :: es).filter (·.id = x.id) := by
          rw [h x.id]
        simpa [List.mem_filter] using hx
      obtain ⟨hd, hdrest⟩ := List.pairwise_cons.mp hds
      obtain ⟨he, herest⟩ := List.pairwise_cons.mp hes
      -- the first numbers are the least ones, and so they are equal
      have hid : e.id = d.id := by
        rcases List.mem_cons.mp ((hmem e).mpr (by simp)) with rfl | hin
        · rfl
        · rcases List.mem_cons.mp ((hmem d).mp (by simp)) with rfl | hin'
          · rfl
          · exact Int.le_antisymm (he d hin') (hd e hin)
      have hhead := h d.id
      simp only [List.filter_cons, hid, decide_true, if_true, List.cons.injEq] at hhead
      obtain ⟨rfl, -⟩ := hhead
      refine congrArg (d :: ·) (ih hdrest herest fun i => ?_)
      have hi := h i
      simp only [List.filter_cons] at hi
      split at hi
      · exact (List.cons.inj hi).2
      · exact hi

/-- There is one way to drain what is held. -/
theorem Drained.unique {held ds es : List Delta} {id : Int} (h : Drained held id ds)
    (h' : Drained held id es) : ds = es := by
  refine eq_of_sorted_of_filter h.ordered h'.ordered fun i => ?_
  by_cases hi : id < i
  · rw [h.stable i hi, h'.stable i hi]
  · -- a number that the snapshot covers is not drained
    have hnone : ∀ {xs : List Delta}, Drained held id xs → xs.filter (·.id = i) = [] := by
      intro xs hxs
      rw [List.filter_eq_nil_iff]
      intro d hd
      have hlt : id < d.id := of_decide_eq_true (List.mem_filter.mp (hxs.perm.mem_iff.mp hd)).2
      simp only [decide_eq_true_eq]
      omega
    rw [hnone h, hnone h']

namespace Channel

variable {c c' : Channel} {o : Except BookError Outcome}

/-- Sorting what is held keeps messages with one number in the order in which they came. -/
theorem heldInOrder_filter (c : Channel) (i : Int) :
    c.heldInOrder.filter (·.id = i) = c.held.filter (·.id = i) := by
  refine filter_mergeSort byNumber_trans byNumber_total ?_ c.held
  intro a b ha hb
  simp only [decide_eq_true_eq] at ha hb ⊢
  omega

/-- What a snapshot drains is what was held for it, in order. -/
theorem freshHeld_drained (c : Channel) (id : Int) : Drained c.held id (c.freshHeld id) where
  perm := c.heldInOrder_perm.filter _
  ordered := c.heldInOrder_sorted.filter _
  stable i hi := by
    rw [freshHeld, List.filter_filter, ← c.heldInOrder_filter i]
    refine List.filter_congr fun d _ => ?_
    by_cases hd : d.id = i <;> simp [hd, hi]

/-! ### What was accepted -/

/-- The changes that a message brings, if the channel does not refuse them. -/
def accepts? (c : Channel) (a : Arrival) : Option Delta :=
  match (c.take a).outcome with
  | .ok _ => a.delta?
  | .error _ => none

/-- The changes of a run that are not refused, in the order in which they come. -/
def acceptedOf (c : Channel) : List Arrival → List Delta
  | [] => []
  | a :: as => (c.accepts? a).toList ++ (c.take a).channel.acceptedOf as

theorem acceptedOf_append (c : Channel) (as bs : List Arrival) :
    c.acceptedOf (as ++ bs) = c.acceptedOf as ++ (c.run as).acceptedOf bs := by
  induction as generalizing c with
  | nil => rfl
  | cons a as ih => simp only [List.cons_append, acceptedOf, run, ih, List.append_assoc]

theorem acceptedOf_concat (c : Channel) (as : List Arrival) (a : Arrival) :
    c.acceptedOf (as ++ [a]) = c.acceptedOf as ++ ((c.run as).accepts? a).toList := by
  rw [acceptedOf_append, acceptedOf, acceptedOf, List.append_nil]

/-! ### The last snapshot of a run -/

/-- The run `as` of the channel `new` splits at the snapshot `s`, which comes with `a`:
it is loaded, and no other is loaded after it. -/
structure LastLoad (new : Channel) (as before : List Arrival) (a : Arrival) (s : Snapshot)
    (after : List Arrival) : Prop where
  split : as = before ++ a :: after
  loads : (new.run before).loads? a = some s
  last : ((new.run before).take a).channel.loaded after = []

variable {new : Channel} {base : Book} {as before after : List Arrival} {a b : Arrival}
variable {s : Snapshot}

namespace LastLoad

theorem run_eq (h : LastLoad new as before a s after) :
    new.run as = ((new.run before).take a).channel.run after := by
  rw [h.split, run_append, run]

/-- A message that loads no snapshot comes after the last one. -/
theorem concat (h : LastLoad new as before a s after) (hb : (new.run as).loads? b = none) :
    LastLoad new (as ++ [b]) before a s (after ++ [b]) where
  split := by simp [h.split]
  loads := h.loads
  last := by rw [loaded_concat, h.last, ← h.run_eq, hb, Option.toList_none, List.append_nil]

/-- A snapshot that is loaded is the last one so far. -/
theorem new_last (hb : (new.run as).loads? b = some s) :
    LastLoad new (as ++ [b]) as b s [] where
  split := rfl
  loads := hb
  last := rfl

end LastLoad

/-- The changes that a book has taken since its last snapshot, which came with `a` after
`before`: those drained by it, and those accepted `after` it. -/
def takenSince (new : Channel) (before : List Arrival) (a : Arrival) (s : Snapshot)
    (after : List Arrival) : List Delta :=
  (new.run before).freshHeld s.id ++ ((new.run before).take a).channel.acceptedOf after

/-- If `c`, which the run `as` has made of `new`, is in step, its book is made of the last
snapshot, loaded into `base`, and of the changes taken since. -/
def Grounded (base : Book) (new : Channel) (as : List Arrival) (c : Channel) : Prop :=
  c.phase = .synced → ∃ before a s after b, LastLoad new as before a s after ∧
    base.load s = .ok b ∧ b.TakesAll (new.takenSince before a s after) c.book

/-- A message after which the channel is not in step leaves nothing to show. -/
theorem Grounded.of_awaiting (h : c.phase = .awaiting) : Grounded base new as c := by
  intro hp
  rw [h] at hp
  cases hp

/-- What a message brings and does not load is taken after all that was taken before. -/
theorem Grounded.concat {c : Channel} (h : Grounded base new as (new.run as))
    (hsynced : (new.run as).phase = .synced) (hloads : (new.run as).loads? a = none)
    (htakes : (new.run as).book.TakesAll ((new.run as).accepts? a).toList c.book) :
    Grounded base new (as ++ [a]) c := by
  intro _
  obtain ⟨before, a', s, after, b, hlast, hload, hbook⟩ := h hsynced
  refine ⟨before, a', s, after ++ [a], b, hlast.concat hloads, hload, ?_⟩
  rw [takenSince, acceptedOf_concat, ← hlast.run_eq, ← List.append_assoc]
  exact hbook.append htakes

/-- Each message keeps the ground. -/
theorem take_grounded (hlegal : (new.run as).Legal) (hkin : base.Kin (new.run as).book)
    (h : Grounded base new as (new.run as)) (a : Arrival) :
    Grounded base new (as ++ [a]) ((new.run as).take a).channel := by
  obtain ⟨p, pool, clock⟩ := a
  have heffect := take_effect hlegal ⟨p, pool, clock⟩
  have haccepts : ∀ o, ((new.run as).take ⟨p, pool, clock⟩).outcome = o →
      (new.run as).accepts? ⟨p, pool, clock⟩ =
        match o with | .ok _ => Arrival.delta? ⟨p, pool, clock⟩ | .error _ => none := by
    rintro o rfl
    rfl
  generalize ((new.run as).take ⟨p, pool, clock⟩).channel = c',
    ho : ((new.run as).take ⟨p, pool, clock⟩).outcome = o at heffect
  replace haccepts := haccepts o ho
  cases heffect with
  | refused load =>
    intro hp
    exact h.concat hp (loads?_of_load_error load) (by rw [haccepts]; exact .nil _) hp
  | mismatched | stopped | overflows | failed => exact .of_awaiting rfl
  | @drained s b b' load checked takes =>
    intro _
    refine ⟨as, _, s, [], b, .new_last (loads?_of_load_ok load), ?_, ?_⟩
    · rw [← Book.load_eq_of_kin hkin]
      exact load
    · rw [takenSince, acceptedOf, List.append_nil]
      exact takes
  | invalid =>
    intro hp
    exact h.concat hp (loads?_delta _) (by rw [haccepts]; exact .nil _) hp
  | waits => intro hp; cases hp
  | @applied d b' synced takes =>
    exact h.concat synced (loads?_delta d) (by rw [haccepts]; exact .cons takes (.nil _))
  | dropped awaiting => exact .of_awaiting awaiting

/-- What the book of a channel in step is made of, after any run. -/
theorem run_grounded (key : Key) (options : Options) (limit : Nat) (as : List Arrival) :
    Grounded (.empty key options) (empty key options limit) as
      ((empty key options limit).run as) := by
  refine run_invariant (P := Grounded (.empty key options) (empty key options limit)) ?_ ?_ as
  · intro hp
    cases hp
  · intro as a ih
    exact take_grounded (run_legal (legal_empty key options limit) as)
      (run_empty_kin key options limit as) ih a

end Channel

/-! ### Loose numbers -/

namespace Book

variable {b b' : Book} {d : Delta} {ds : List Delta} {reason : Desync} {e : BookError}

/-- The number of a loosely numbered book is the greatest that it has met. -/
theorem TakesAll.lastId_loose (hloose : b.options.numbering = .loose) (h : b.TakesAll ds b') :
    (b.lastId :: ds.map (·.id)).max? = some b'.lastId := by
  induction h with
  | nil b => rfl
  | @cons b b₁ b' d ds hd _ ih =>
    obtain ⟨-, hlast⟩ := applyDelta_whole (hd.error (.empty 0) 0)
    rw [hd.book, advanceId, hloose] at hlast
    have hloose₁ : b₁.options.numbering = .loose := by
      rw [hd.frame.options]
      exact hloose
    rw [← ih hloose₁, hlast]
    rfl

/-- A loosely numbered book finds no fault with a number. -/
theorem applyDelta_error_loose {pool : Pool} {now : Instant}
    (hloose : b.options.numbering = .loose) (h : (b.applyDelta d pool now).error = some e)
    (expected actual : Int) : e ≠ .outOfSequence expected actual := by
  rintro rfl
  obtain ⟨-, happly⟩ | ⟨x, y, hintegrity⟩ := applyDelta_error h
  · obtain ⟨e, hcheck, heq⟩ | ⟨i, hlevel⟩ | ⟨-, hnone, -⟩ := b.apply_cases d.id d.changes pool now
    · rw [heq] at happly
      obtain rfl := Option.some.inj happly
      unfold checkMessage checkNumber at hcheck
      rw [hloose] at hcheck
      split at hcheck
      · obtain ⟨side, price, amount, hlevel⟩ := checkChanges_error hcheck
        cases hlevel
      · cases hcheck
    · rw [hlevel] at happly
      cases happly
    · rw [hnone] at happly
      cases happly
  · cases hintegrity

theorem FailsOn.ne_sequenceGap (hloose : b.options.numbering = .loose)
    (h : b.FailsOn d b' reason) (expected actual : Int) :
    reason ≠ .sequenceGap expected actual := by
  rintro rfl
  obtain ⟨e, herror, hheal⟩ := h.error (.empty 0) 0
  have hnumber := applyDelta_error_loose hloose herror
  cases e with
  | outOfSequence x y => exact hnumber x y rfl
  | integrity | tooManyHeld | levelNotFound => cases hheal
  | notFound | unknownWord | invalidPair | invalidSnapshot | invalidAmount | invalidLevel
    | overflow | invalidated => cases hheal

end Book

namespace Channel

variable {c c' : Channel} {p : Payload} {o : Except BookError Outcome}

/-- A channel with a loosely numbered book never goes out of step for a number. -/
theorem Effect.ne_sequenceGap (hloose : c.book.options.numbering = .loose)
    (h : c.Effect p c' o) (expected actual : Int) :
    o ≠ .ok (.desynced (.sequenceGap expected actual)) := by
  rintro rfl
  cases h with
  | stopped load _ _ takes fails =>
    refine fails.ne_sequenceGap ?_ expected actual rfl
    rw [takes.frame.options, (Book.load_ok load).1.options]
    exact hloose
  | failed _ fails => exact fails.ne_sequenceGap hloose expected actual rfl

/-- What a reader sees after a run of a new channel with a loosely numbered book, `v`, is
made of the last snapshot `s`, which came with `a`, of what it `drained`, and of the
`live` changes that came `after` it. -/
structure LooselyMadeOf (key : Key) (options : Options) (limit : Nat) (as : List Arrival)
    (v : View) (before : List Arrival) (a : Arrival) (s : Snapshot) (after : List Arrival)
    (drained live : List Delta) : Prop where
  lastLoad : LastLoad (empty key options limit) as before a s after
  /-- What was held when the snapshot came, and is not covered, in the order of the numbers. -/
  inOrder : Drained ((empty key options limit).run before).held s.id drained
  /-- What was accepted after the snapshot, whatever its numbers, in the order in which it came. -/
  accepted : live = ((((empty key options limit).run before).take a).channel).acceptedOf after
  /-- Loading the snapshot into an empty book and applying these changes one after the
  other succeeds, and the reader sees what comes out. -/
  rebuilt : ∀ pool now,
    (Book.rebuild? key options s (drained ++ live) pool now).map Book.view = some v
  /-- The number of the book is the greatest of those of the snapshot and the changes. -/
  lastId : (s.id :: (drained ++ live).map (·.id)).max? = some v.lastId

variable {key : Key} {options : Options}

/-- **What a loosely numbered book is made of**, after any run of a new channel, whenever
it can be read: of the last snapshot that the run loaded, of what was held for it and not
covered, in the order of the numbers, and of all that was accepted since, in the order in
which it came.  And no message of the run puts the channel out of step for its number. -/
theorem looseView_of_run (hloose : options.numbering = .loose) (limit : Nat)
    (as : List Arrival) :
    (∀ v, ((empty key options limit).run as).view = .ok v →
      ∃ before a s after drained live,
        LooselyMadeOf key options limit as v before a s after drained live) ∧
    ∀ before a after, as = before ++ a :: after → ∀ expected actual,
      (((empty key options limit).run before).take a).outcome ≠
        .ok (.desynced (.sequenceGap expected actual)) := by
  have hempty := legal_empty key options limit
  constructor
  · intro v hview
    obtain ⟨hreadable, rfl⟩ := view_eq_ok_iff.mp hview
    have hsynced := (run_legal hempty as).synced_iff.mpr (Book.readable_eq_ok_iff.mp hreadable)
    obtain ⟨before, a, s, after, b, hlast, hload, htakes⟩ :=
      run_grounded key options limit as hsynced
    obtain ⟨hkin, -, -, hid⟩ := Book.load_ok hload
    have hloose' : b.options.numbering = .loose := by
      rw [hkin.options]
      exact hloose
    refine ⟨before, a, s, after, _, _, hlast, freshHeld_drained _ _, rfl, ?_, ?_⟩
    · intro pool now
      exact congrArg (·.map Book.view) (htakes.rebuild?_eq hload pool now)
    · have hmax := htakes.lastId_loose hloose'
      rw [hid] at hmax
      exact hmax
  · rintro before a after - expected actual
    refine (take_effect (run_legal hempty before) a).ne_sequenceGap ?_ expected actual
    rw [(run_empty_kin key options limit before).options]
    exact hloose

/-! Four messages are held for a snapshot, two of them with one number and one with a
negative number, which the snapshot covers; of the three messages after it, two have one
number, lower than that of the book, and one is malformed. -/

def jumpingHeld : List Delta :=
  [bidDelta 12 99 5, bidDelta (-3) 97 1, bidDelta 12 99 6, bidDelta 11 98 4]

def jumpingLive : List Delta := [bidDelta 5 97 3, bidDelta 13 0 1, bidDelta 5 97 9]

def jumpingRun : List Arrival :=
  jumpingHeld.map (fun d => .alone (.delta d)) ++
    .alone (.snapshot (exampleSnapshot none)) :: jumpingLive.map fun d => .alone (.delta d)

def jumpingView : View where
  key := exampleKey
  bids := [wholeLevel 100 1, wholeLevel 99 6, wholeLevel 98 4, wholeLevel 97 9]
  asks := [wholeLevel 101 2]
  lastId := 12
  restored := true
  verify := true

theorem jumpingRun_view :
    ((empty exampleKey { verify := true, numbering := .loose } 4).run jumpingRun).view =
      .ok jumpingView := by
  have hheld : ((empty exampleKey { verify := true, numbering := .loose } 4).run
      (jumpingHeld.map fun d => .alone (.delta d))).held = jumpingHeld := by
    decide +kernel
  have horder : ((empty exampleKey { verify := true, numbering := .loose } 4).run
      (jumpingHeld.map fun d => .alone (.delta d))).heldInOrder =
        [bidDelta (-3) 97 1, bidDelta 11 98 4, bidDelta 12 99 5, bidDelta 12 99 6] := by
    refine eq_of_sorted_of_filter (heldInOrder_sorted _) (by decide) fun i => ?_
    rw [heldInOrder_filter, hheld, jumpingHeld]
    simp only [List.filter_cons, bidDelta]
    split_ifs <;> simp_all <;> omega
  rw [view_eq_ok_iff, Book.readable_eq_ok_iff, jumpingRun, run_append, run, take_alone_snapshot,
    receiveSnapshot, horder]
  constructor
  · decide +kernel
  · decide +kernel

theorem looseView_of_jumpingRun :
    ((empty exampleKey { verify := true, numbering := .loose } 4).run jumpingRun).view =
        .ok jumpingView ∧
      ∃ before a s after drained live,
        LooselyMadeOf exampleKey { verify := true, numbering := .loose } 4 jumpingRun jumpingView
          before a s after drained live :=
  ⟨jumpingRun_view, (looseView_of_run rfl 4 jumpingRun).1 jumpingView jumpingRun_view⟩

end Channel

end MarketDepth
