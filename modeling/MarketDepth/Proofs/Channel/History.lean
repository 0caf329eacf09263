/-
MarketDepth/Proofs/Channel/History.lean

What a readable book is made of.

A channel in step owes its book to one snapshot, the last that the run loaded,
and to changes that came in the run and that the book took one after the other;
each is used once, whether it was held or came live.  `Channel.Sourced` keeps
track of these, and of the held messages, which may be used later.

Main result: `Channel.view_of_run`.  In a strictly numbered book the numbers of
the changes follow that of the snapshot without a gap, and nothing else that came
in the run leaves a trace in the book.
-/
import Mathlib.Data.List.Perm.Subperm
import MarketDepth.Proofs.Channel.Follow

namespace MarketDepth

namespace Channel

variable {base : Book} {snapshots : List Snapshot} {deltas es : List Delta}
variable {c c' : Channel} {o : Except BookError Outcome}

/-! ### Where the messages come from -/

/-- What is held by `c`, and what its book is made of, is among the snapshots and
the changes listed.  Snapshots are loaded into `base`. -/
structure Sourced (base : Book) (snapshots : List Snapshot) (deltas : List Delta)
    (c : Channel) : Prop where
  held : c.held.Subperm deltas
  synced : c.phase = .synced → ∃ s ds b,
    snapshots.getLast? = some s ∧ ds.Subperm deltas ∧
      base.load s = .ok b ∧ b.Matches s.checksum ∧ b.TakesAll ds c.book

namespace Sourced

theorem of_empty (key : Key) (options : Options) (limit : Nat) :
    Sourced base snapshots deltas (empty key options limit) where
  held := deltas.nil_subperm
  synced h := by cases h

/-- More changes may come in. -/
theorem more (h : Sourced base snapshots deltas c) (es : List Delta) :
    Sourced base snapshots (deltas ++ es) c where
  held := h.held.trans (List.sublist_append_left deltas es).subperm
  synced hp := by
    obtain ⟨s, ds, b, hlast, hds, hbook⟩ := h.synced hp
    exact ⟨s, ds, b, hlast, hds.trans (List.sublist_append_left deltas es).subperm, hbook⟩

/-- A channel that was given up owes nothing to any message. -/
theorem desync (c : Channel) (reason : Desync) :
    Sourced base snapshots deltas (c.desync reason) where
  held := deltas.nil_subperm
  synced h := by cases h

end Sourced

/-- The messages that a snapshot drains are among those that were held. -/
theorem freshHeld_subperm (c : Channel) (id : Int) : (c.freshHeld id).Subperm c.held :=
  List.Subperm.trans List.filter_sublist.subperm c.heldInOrder_perm.subperm

/-- Each message keeps track of what it uses. -/
theorem Effect.sourced {a : Arrival} (hkin : base.Kin c.book)
    (h : Sourced base snapshots deltas c) (he : c.Effect a.payload c' o) :
    Sourced base (snapshots ++ (c.loads? a).toList) (deltas ++ a.delta?.toList) c' := by
  obtain ⟨p, pool, clock⟩ := a
  cases he with
  | refused load => simpa [loads?_of_load_error load] using h
  | mismatched | stopped | overflows | failed => exact .desync _ _
  | @drained s b b' load checked takes =>
    -- from here on the book is that of `s`, whatever it was before
    refine ⟨List.nil_subperm, fun _ => ⟨s, c.freshHeld s.id, b, ?_, ?_, ?_, checked, takes⟩⟩
    · simp [loads?_of_load_ok load]
    · have hfresh := (c.freshHeld_subperm s.id).trans h.held
      exact hfresh.trans (List.sublist_append_left deltas _).subperm
    · rw [← Book.load_eq_of_kin hkin]
      exact load
  | invalid => simpa using h.more _
  | @waits d =>
    -- the book is not yet in step, so only what is held has to be accounted for
    refine ⟨?_, fun hp => by cases hp⟩
    show (c.held ++ [d]).Subperm (deltas ++ [d])
    exact (List.subperm_append_right [d]).mpr h.held
  | @applied d b' synced takes =>
    obtain ⟨s, ds, b, hlast, hds, hload, hsum, hbook⟩ := h.synced synced
    refine ⟨(h.more [d]).held, fun _ => ⟨s, ds ++ [d], b, ?_, ?_, hload, hsum, ?_⟩⟩
    · simpa using hlast
    · exact (List.subperm_append_right [d]).mpr hds
    · exact hbook.concat takes
  | @dropped d =>
    have hmore := h.more [d]
    rw [loads?_delta, Option.toList_none, List.append_nil]
    exact ⟨hmore.held, hmore.synced⟩

theorem run_sourced (key : Key) (options : Options) (limit : Nat) (as : List Arrival) :
    Sourced (.empty key options) ((empty key options limit).loaded as) (deltasOf as)
      ((empty key options limit).run as) := by
  refine run_invariant (P := fun as c => Sourced (.empty key options)
    ((empty key options limit).loaded as) (deltasOf as) c) (.of_empty key options limit) ?_ as
  intro as a ih
  have hlegal := run_legal (legal_empty key options limit) as
  rw [loaded_concat, deltasOf_concat]
  exact (take_effect hlegal a).sourced (run_empty_kin key options limit as) ih

/-! ### What the book is made of -/

/-- A run of a snapshot and of changes that the book takes leaves a new channel
with the book that has taken them. -/
theorem run_of_takesAll {key : Key} {options : Options} (limit : Nat) {s : Snapshot}
    {ds : List Delta} {b b' : Book} {as : List Arrival}
    (hload : (Book.empty key options).load s = .ok b) (hsum : b.Matches s.checksum)
    (htakes : b.TakesAll ds b') (has : as.map (·.payload) = .snapshot s :: ds.map .delta) :
    ((empty key options limit).run as).book = b' := by
  obtain ⟨⟨_, pool, clock⟩, as, rfl, rfl, hrest⟩ := List.map_eq_cons_iff.mp has
  have heffect := take_effect (legal_empty key options limit) ⟨.snapshot s, pool, clock⟩
  obtain ⟨hbook, hphase⟩ := reload_of_held_nil rfl hload hsum heffect
  have hfollows := htakes.follows
  rw [← hbook] at hfollows
  exact (run_of_follows hphase hfollows hrest).1

/-- What a reader sees after a run of a new channel, `v`, is made of the snapshot
`s` and the changes `ds`. -/
structure MadeOf (key : Key) (options : Options) (limit : Nat) (as : List Arrival) (v : View)
    (s : Snapshot) (ds : List Delta) : Prop where
  /-- The snapshot is the last that the run loaded. -/
  last : ((empty key options limit).loaded as).getLast? = some s
  /-- The changes came in the run, each of them in a message of its own. -/
  came : ds.Subperm (deltasOf as)
  /-- There is one message for each number after that of the snapshot, … -/
  numbers : ds.map (·.id) = (List.range ds.length).map (fun i : Nat => s.id + 1 + i)
  /-- … up to the number of the book. -/
  lastId : v.lastId = s.id + ds.length
  /-- Loading the snapshot into an empty book and applying the changes one after
  the other succeeds, and the reader sees what comes out. -/
  rebuilt : ∀ pool now, (Book.rebuild? key options s ds pool now).map Book.view = some v
  /-- A run of these messages alone shows the reader the same. -/
  enough : ∀ bs : List Arrival, bs.map (·.payload) = .snapshot s :: ds.map .delta →
    ((empty key options limit).run bs).view = .ok v

variable {key : Key} {options : Options} {limit : Nat} {as : List Arrival} {v : View}

/-- **What a readable book is made of**, if it is numbered strictly, after any run
of a new channel: of the last snapshot that the run loaded and of changes that came
in it, one for each of the numbers that follow that of the snapshot.  No other
message has left a trace in it. -/
theorem view_of_run (hstrict : options.numbering = .strict)
    (hview : ((empty key options limit).run as).view = .ok v) :
    ∃ s ds, MadeOf key options limit as v s ds := by
  have hlegal := run_legal (legal_empty key options limit) as
  obtain ⟨hreadable, rfl⟩ := view_eq_ok_iff.mp hview
  have hsynced := hlegal.synced_iff.mpr (Book.readable_eq_ok_iff.mp hreadable)
  obtain ⟨s, ds, b, hlast, hds, hload, hsum, htakes⟩ :=
    (run_sourced key options limit as).synced hsynced
  obtain ⟨hkin, -, -, hid⟩ := Book.load_ok hload
  have hstrict' : b.options.numbering = .strict := by
    rw [hkin.options]
    exact hstrict
  obtain ⟨hids, hend⟩ := htakes.ids hstrict'
  rw [hid] at hids hend
  refine ⟨s, ds, hlast, hds, hids, hend, ?_, ?_⟩
  · intro pool now
    rw [htakes.rebuild?_eq hload pool now]
    rfl
  · intro bs hbs
    rw [view_eq_ok_iff, run_of_takesAll limit hload hsum htakes hbs]
    exact ⟨hreadable, rfl⟩

/-! Three messages are held for a snapshot, in the wrong order and one of them too
old for it; the snapshot carries a checksum; of the two messages after it, one is
malformed. -/

def mixedHeld : List Delta := [bidDelta 12 99 5, bidDelta 9 97 1, bidDelta 11 98 4]

def mixedLive : List Delta := [bidDelta 13 0 1, bidDelta 13 98 7]

def mixedRun : List Arrival :=
  mixedHeld.map (fun d => .alone (.delta d)) ++
    .alone (.snapshot (exampleSnapshot (some 3756313483))) ::
      mixedLive.map fun d => .alone (.delta d)

def mixedView : View where
  key := exampleKey
  bids := [wholeLevel 100 1, wholeLevel 99 5, wholeLevel 98 7]
  asks := [wholeLevel 101 2]
  lastId := 13
  restored := true
  verify := true

theorem mixedRun_view :
    ((empty exampleKey { verify := true } 3).run mixedRun).view = .ok mixedView := by
  have horder : ((empty exampleKey { verify := true } 3).run
      (mixedHeld.map fun d => .alone (.delta d))).heldInOrder =
        [bidDelta 9 97 1, bidDelta 11 98 4, bidDelta 12 99 5] := by
    apply heldInOrder_eq_of_sorted
    · show mixedHeld.Perm _
      decide +kernel
    · decide
  rw [view_eq_ok_iff, Book.readable_eq_ok_iff, mixedRun, run_append, run, take_alone_snapshot,
    receiveSnapshot, horder]
  constructor
  · decide +kernel
  · decide +kernel

theorem view_of_mixedRun :
    ((empty exampleKey { verify := true } 3).run mixedRun).view = .ok mixedView ∧
      ∃ s ds, MadeOf exampleKey { verify := true } 3 mixedRun mixedView s ds :=
  ⟨mixedRun_view, view_of_run rfl mixedRun_view⟩

end Channel

end MarketDepth
