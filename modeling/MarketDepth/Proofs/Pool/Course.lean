/-
MarketDepth/Proofs/Pool/Course.lean

How many nodes a pool makes.

An operation draws nodes from its pool and hands others back in between.  The moments of its
course are those right after each access to the pool, and those at which what it holds
changes otherwise.  At a moment there may be nodes out that no ladder holds, because a level
is on its way from one place to another, but there are none when a node has just been drawn
(`Course`).  And a pool makes a node only when none is free.  So when it makes one and none
was purged, all the nodes that it ever made are held at that moment.

Main result: `Course.allocated_eq`, that a pool which purges nothing makes as many nodes as
are held at one time.
-/
import MarketDepth.Proofs.Pool.Lent
import MarketDepth.Proofs.Pool.Stamps

namespace MarketDepth

namespace Pool

variable {p : Pool} {now : Instant} {asked : Option (Access × Instant)}

/-- The pool after an access, if there is one. -/
def ask (p : Pool) : Option (Access × Instant) → Pool
  | some (a, now) => p.access a now
  | none => p

/-- How many nodes an access asks for. -/
def draws : Option (Access × Instant) → Nat
  | some (.draw, _) => 1
  | _ => 0

theorem lent_le_allocated (p : Pool) : p.lent ≤ p.allocated := by
  rw [lent]
  omega

/-- A node is made only when none is free. -/
theorem draw_cases (p : Pool) (now : Instant) :
    ((p.draw now).2.allocated = p.allocated + 1 ∧ (p.draw now).2.reused = p.reused ∧
        (p.draw now).2.spareCount = 0) ∨
      (p.draw now).2.allocated = p.allocated ∧ (p.draw now).2.reused = p.reused + 1 := by
  unfold draw
  dsimp only
  split
  · next hfree => exact .inl ⟨rfl, rfl, congrArg List.length hfree⟩
  · exact .inr ⟨rfl, rfl⟩

/-- Only a draw changes how many nodes were made, and how many were given out again. -/
theorem ask_cases (p : Pool) (asked : Option (Access × Instant)) :
    (∃ now, asked = some (.draw, now) ∧ p.ask asked = (p.draw now).2) ∨
      draws asked = 0 ∧ (p.ask asked).allocated = p.allocated ∧
        (p.ask asked).reused = p.reused := by
  rcases asked with _ | ⟨_ | _ | _ | _, now⟩
  · exact .inr ⟨rfl, rfl, rfl⟩
  · exact .inl ⟨now, rfl, rfl⟩
  · exact .inr ⟨rfl, rfl, rfl⟩
  · exact .inr ⟨rfl, rfl, rfl⟩
  · exact .inr ⟨rfl, rfl, rfl⟩

theorem purged_le_ask (p : Pool) (asked : Option (Access × Instant)) :
    p.purged ≤ (p.ask asked).purged := by
  rcases asked with _ | ⟨_ | _ | _ | _, now⟩
  · exact Nat.le_refl _
  · show p.purged ≤ (p.draw now).2.purged
    unfold draw
    dsimp only
    split <;> exact Nat.le_add_right _ _
  all_goals exact Nat.le_add_right _ _

/-- Every node that is drawn was made for it or given out again. -/
theorem given_ask (p : Pool) (asked : Option (Access × Instant)) :
    (p.ask asked).reused + (p.ask asked).allocated = p.reused + p.allocated + draws asked := by
  rcases p.ask_cases asked with ⟨now, rfl, hask⟩ | ⟨hdraws, hallocated, hreused⟩
  · rw [hask]
    rcases p.draw_cases now with ⟨hallocated, hreused, -⟩ | ⟨hallocated, hreused⟩
    · rw [hallocated, hreused]
      rfl
    · rw [hallocated, hreused]
      simp only [draws]
      omega
  · rw [hallocated, hreused, hdraws]
    rfl

end Pool

variable {σ τ : Type}

/-- What there is at a moment, and the access to the pool by which it came about, if there was
one. -/
structure Moment (σ : Type) where
  state : σ
  pool : Pool
  asked : Option (Pool.Access × Instant)

namespace Moment

/-- A moment of a part, as one of the whole. -/
def map (f : σ → τ) (x : Moment σ) : Moment τ := ⟨f x.state, x.pool, x.asked⟩

/-- How many nodes are out, but not in the ladders. -/
def elsewhere (held : σ → Nat) (x : Moment σ) : Int := x.pool.lent - held x.state

/-- The most nodes that were held at one of the moments. -/
def peak (held : σ → Nat) (xs : List (Moment σ)) : Nat :=
  xs.foldr (fun x n => max (held x.state) n) 0

/-- How many nodes were drawn. -/
def drawn (xs : List (Moment σ)) : Nat := xs.foldr (fun x n => Pool.draws x.asked + n) 0

end Moment

open Moment (peak drawn)

/-- The course of an operation from one pool to another.  At each moment the pool is the one
of the moment before, after the access.  As many nodes as to begin with are out, but not in
the ladders, or more; but not more of them when a node has just been drawn. -/
inductive Course (held : σ → Nat) (elsewhere : Int) : Pool → List (Moment σ) → Pool → Prop
  | done (p : Pool) : Course held elsewhere p [] p
  | next {p q : Pool} {x : Moment σ} {xs : List (Moment σ)}
      (hask : x.pool = p.ask x.asked) (hout : elsewhere ≤ x.elsewhere held)
      (hdrawn : 0 < Pool.draws x.asked → x.elsewhere held = elsewhere)
      (hrest : Course held elsewhere x.pool xs q) : Course held elsewhere p (x :: xs) q

namespace Course

variable {held : σ → Nat} {held' : τ → Nat} {e k : Int} {p q r : Pool} {x : Moment σ}
  {xs ys : List (Moment σ)}

/-! ### Composition -/

/-- A single moment at which no node is on its way. -/
theorem single (hask : x.pool = p.ask x.asked) (hout : x.elsewhere held = e) :
    Course held e p [x] x.pool :=
  .next hask (Int.le_of_eq hout.symm) (fun _ => hout) (.done _)

theorem append (h : Course held e p xs q) (h' : Course held e q ys r) :
    Course held e p (xs ++ ys) r := by
  induction h with
  | done p => exact h'
  | next hask hout hdrawn _ ih => exact .next hask hout hdrawn (ih h')

theorem exists_of_append (h : Course held e p (xs ++ ys) r) :
    ∃ q, Course held e p xs q ∧ Course held e q ys r := by
  induction xs generalizing p with
  | nil => exact ⟨p, .done p, h⟩
  | cons x xs ih =>
    cases h with
    | next hask hout hdrawn hrest =>
      obtain ⟨q, hxs, hys⟩ := ih hrest
      exact ⟨q, .next hask hout hdrawn hxs, hys⟩

/-- The course of a part is one of the whole, where the other parts hold what they held. -/
theorem map {f : σ → τ} (hheld : ∀ s, (held' (f s) : Int) = held s + k)
    (h : Course held e p xs q) : Course held' (e - k) p (xs.map (Moment.map f)) q := by
  have hpart (x : Moment σ) : (x.map f).elsewhere held' = x.elsewhere held - k := by
    have hstate := hheld x.state
    simp only [Moment.elsewhere, Moment.map]
    omega
  induction h with
  | done p => exact .done p
  | @next p q x xs hask hout hdrawn _ ih =>
    refine .next (x := x.map f) hask ?_ (fun hdraws => ?_) ih
    · rw [hpart]
      omega
    · rw [hpart, hdrawn hdraws]

/-! ### What a pool makes -/

theorem purged_le (h : Course held e p xs q) : p.purged ≤ q.purged := by
  induction h with
  | done p => exact Nat.le_refl _
  | next hask _ _ _ ih => exact Nat.le_trans (hask ▸ Pool.purged_le_ask _ _) ih

/-- Every node that was drawn was made or given out again. -/
theorem given_eq (h : Course held e p xs q) :
    q.reused + q.allocated = p.reused + p.allocated + drawn xs := by
  induction h with
  | done p => rfl
  | @next p q x xs hask _ _ _ ih =>
    have hgiven := Pool.given_ask p x.asked
    rw [← hask] at hgiven
    simp only [drawn, List.foldr_cons] at ih ⊢
    omega

/-- A pool that purges nothing makes a node only if more nodes are held then than it has
made. -/
theorem allocated_ask (hask : x.pool = p.ask x.asked) (hout : 0 ≤ x.elsewhere held)
    (hdrawn : 0 < Pool.draws x.asked → x.elsewhere held = 0) (hpurged : x.pool.purged = 0) :
    x.pool.allocated = max p.allocated (held x.state) := by
  have hmade := x.pool.lent_le_allocated
  simp only [Moment.elsewhere] at hout hdrawn
  rcases p.ask_cases x.asked with ⟨now, hdraw, hpool⟩ | ⟨-, hallocated, -⟩
  · have hheld := hdrawn (by rw [hdraw]; exact Nat.one_pos)
    rw [← hask] at hpool
    rcases p.draw_cases now with ⟨hallocated, -, hspare⟩ | ⟨hallocated, -⟩
    · -- nothing is free and nothing was purged, so all that were made are held
      rw [← hpool] at hallocated hspare
      have hlent : x.pool.lent = x.pool.allocated := by
        rw [Pool.lent, hspare, hpurged]
        omega
      omega
    · rw [← hpool] at hallocated
      omega
  · rw [← hask] at hallocated
    omega

/-- **As many nodes are made as are held at one time**: a pool that purges nothing makes
another one only for the first moment at which so many are held. -/
theorem allocated_eq (h : Course held 0 p xs q) (hpurged : q.purged = 0) :
    q.allocated = max p.allocated (peak held xs) := by
  induction h with
  | done p => exact (Nat.max_zero _).symm
  | @next p q x xs hask hout hdrawn hrest ih =>
    have hkept : x.pool.purged = 0 := Nat.le_zero.mp (hpurged ▸ hrest.purged_le)
    rw [ih hpurged, allocated_ask hask hout hdrawn hkept, Nat.max_assoc]
    rfl

end Course

end MarketDepth
