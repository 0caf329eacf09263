/-
MarketDepth/Proofs/Market/Peak.lean

How many nodes a market needs.

All books draw from one pool.  A run of a market is looked at before and after every call,
and within a call whenever a node has come or gone or the levels of a ladder have changed:
these are its moments (`Market.moments`), with the books as they are then.  From each to the
next the pool is asked for one thing at most, and the last one is the market after the run.

Main result: `Market.peak_of_run`, that as long as no node was purged, as many were made as
were ever held at one moment.
-/
import MarketDepth.Proofs.Channel.Moments
import MarketDepth.Proofs.Market.Isolation
import MarketDepth.Proofs.Market.Nodes

namespace MarketDepth.Market

open Channel (exampleKey exampleSnapshot bidDelta)
open Moment (peak drawn)

variable {m : Market}

/-- The books and the pool between two calls. -/
def moment (m : Market) : Moment ChannelTable := ⟨m.channels, m.pool, none⟩

/-- The moments within a call: those of its message, among the other books. -/
def serveMoments (m : Market) (a : Call) : List (Moment ChannelTable) :=
  match a.request with
  | .openBook .. => []
  | .receive message =>
    let c := m.channelFor message.key
    (c.receiveMoments message.payload m.pool a.clock).map
      (Moment.map fun book => m.channels.put message.key { c with book })

/-- The moments of a run. -/
def moments (m : Market) : List Call → List (Moment ChannelTable)
  | [] => [m.moment]
  | a :: as => m.moment :: (m.serveMoments a ++ (m.serve a).1.moments as)

/-- The last moment of a run is the market after it. -/
theorem moments_getLast? (m : Market) (calls : List Call) :
    (m.moments calls).getLast? = some (m.run calls).moment := by
  induction calls generalizing m with
  | nil => rfl
  | cons a as ih =>
    rw [moments, ← List.cons_append, List.getLast?_append, ih]
    rfl

theorem serve_course (m : Market) (a : Call) :
    Course ChannelTable.levelCount m.elsewhere m.pool (m.serveMoments a) (m.serve a).1.pool := by
  obtain ⟨request, clock⟩ := a
  cases request with
  | openBook key options =>
    rw [serve, openBook_pool]
    exact .done m.pool
  | receive message =>
    have hcourse := (m.channelFor message.key).receive_course message.payload m.pool clock
    have hsize := m.channelFor_size message.key
    -- the other books hold what they held
    have hheld (book : Book) :
        ((m.channels.put message.key { m.channelFor message.key with book }).levelCount : Int) =
          book.size + (m.channels.levelCount - (m.channelFor message.key).book.size) := by
      have hput := m.channels.levelCount_put message.key { m.channelFor message.key with book }
      rw [find?] at hsize
      dsimp only at hput ⊢
      omega
    have hout : m.elsewhere = (m.channelFor message.key).book.elsewhere m.pool -
        (m.channels.levelCount - (m.channelFor message.key).book.size) := by
      rw [elsewhere, Book.elsewhere]
      omega
    rw [hout]
    exact hcourse.map hheld

/-- The moments of a run are the course from the pool before it to the pool after it. -/
theorem moments_course (m : Market) (calls : List Call) :
    Course ChannelTable.levelCount m.elsewhere m.pool (m.moments calls) (m.run calls).pool := by
  induction calls generalizing m with
  | nil => exact .single (x := m.moment) rfl rfl
  | cons a as ih =>
    have hrest := ih (m.serve a).1
    rw [serve_elsewhere] at hrest
    exact .next (x := m.moment) rfl (Int.le_refl _) (fun _ => rfl)
      ((m.serve_course a).append hrest)

/-- **As many nodes as are held at one time**, at every moment of any run of a new market with
a new pool, up to which no node was purged: the pool has made as many nodes as the most that
the ladders of all books have held together at one of the moments so far, those within the
calls counted; and those that it made and those that it gave out again are all that it was
asked for.  The moments are the course of the run, from one access to the pool to the next. -/
theorem peak_of_run (defaults : Options) (limit retention : Nat) (calls : List Call) :
    let m := empty defaults limit (.empty retention)
    (m.moments calls).getLast? = some (m.run calls).moment ∧
      Course ChannelTable.levelCount 0 (.empty retention) (m.moments calls) (m.run calls).pool ∧
      ∀ before x after, m.moments calls = before ++ x :: after → x.pool.purged = 0 →
        x.pool.allocated = peak ChannelTable.levelCount (before ++ [x]) ∧
          x.pool.reused + x.pool.allocated = drawn (before ++ [x]) := by
  intro m
  have hcourse := m.moments_course calls
  refine ⟨m.moments_getLast? calls, hcourse, ?_⟩
  intro before x after hmoments hpurged
  rw [hmoments, List.append_cons] at hcourse
  obtain ⟨q, hcourse, -⟩ := hcourse.exists_of_append
  -- the pool of the last moment is where the course ends
  obtain rfl : q = x.pool := by
    obtain ⟨p, -, hlast⟩ := hcourse.exists_of_append
    cases hlast with
    | next _ _ _ hdone =>
      cases hdone
      rfl
  have hallocated := hcourse.allocated_eq hpurged
  have hgiven := hcourse.given_eq
  simp only [m, empty, Pool.empty, Nat.zero_max, Nat.zero_add] at hallocated hgiven
  exact ⟨hallocated, hgiven⟩

/-- A bid is added to a book, which is then loaded again with fewer levels than it had, and
another book is loaded. -/
def reloadedRun : List Call :=
  [⟨.receive ⟨exampleKey, .snapshot (exampleSnapshot none)⟩, fun _ => 5⟩,
    ⟨.receive ⟨exampleKey, .delta (bidDelta 11 98 4)⟩, fun _ => 6⟩,
    ⟨.receive ⟨exampleKey, .snapshot (exampleSnapshot none)⟩, fun _ => 7⟩,
    ⟨.receive ⟨otherKey, .snapshot (exampleSnapshot none)⟩, fun _ => 8⟩]

theorem peak_of_reloadedRun :
    let m := (empty { verify := true } 3 (.empty 1000)).run reloadedRun
    m.pool.purged = 0 ∧ m.levelCount = 4 ∧ m.pool.allocated = 4 ∧
      m.pool.reused + m.pool.allocated = 7 := by
  obtain ⟨hlast, -, hmoment⟩ := peak_of_run { verify := true } 3 1000 reloadedRun
  obtain ⟨before, hmoments⟩ := List.getLast?_eq_some_iff.mp hlast
  have hpurged : ((empty { verify := true } 3 (.empty 1000)).run reloadedRun).pool.purged = 0 := by
    decide +kernel
  obtain ⟨hallocated, hgiven⟩ := hmoment before _ [] hmoments hpurged
  rw [← hmoments] at hallocated hgiven
  refine ⟨hpurged, by decide +kernel, hallocated.trans ?_, hgiven.trans ?_⟩
  · decide +kernel
  · decide +kernel

/-! How many levels rest at the moments of this run.  Each side of the book that is loaded again
hands back its nodes before it draws the first one, and the other book takes the node that is
left over before the last one is made. -/

example :
    ((empty { verify := true } 3 (.empty 1000)).moments reloadedRun).map (·.state.levelCount) =
      [0, 0, 1, 1, 2, 2, 3, 3, 1, 2, 1, 2, 2, 2, 3, 3, 4, 4] := by
  decide +kernel

end MarketDepth.Market
