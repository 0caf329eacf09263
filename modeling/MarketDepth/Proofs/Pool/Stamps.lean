/-
MarketDepth/Proofs/Pool/Stamps.lean

The stamps on the free list.

A purge looks at the front of the free list only and stops at the first node that may stay.
It finds all that is due, and only that, as long as the stamps never decrease along the list
(`Pool.InOrder`): then what may stay comes last.  Nothing is known of the instants at which
a pool is reached, but a node that is handed back gets a stamp no earlier than the one before
it, and nodes are taken from the ends of the list only.  So whatever an access does to the
list, it takes nodes out of it and puts at most one batch behind them, with one stamp
(`Pool.InOrder.exists_free_access`); and this keeps the stamps in order.

Main result: `Pool.stamps_of_run`.
-/
import MarketDepth.Pool
import Mathlib.Data.List.Forall2

namespace MarketDepth.Pool

open List (SublistForall₂)

variable {p : Pool} {now since : Instant} {levels : List Level} {n : Spare}

/-! ### Purging a list in order -/

/-- The stamps never decrease along the free list. -/
def InOrder (p : Pool) : Prop := p.free.Pairwise fun m n => m.since ≤ n.since

/-- The nodes that have not outlived the retention time, in their order. -/
def fresh (p : Pool) (now : Instant) : List Spare :=
  p.free.filter fun n => now - n.since ≤ p.retention

/-- How many nodes have outlived it. -/
def expiredCount (p : Pool) (now : Instant) : Nat :=
  p.free.countP fun n => p.retention < now - n.since

theorem fresh_sublist (p : Pool) (now : Instant) : (p.fresh now).Sublist p.free :=
  List.filter_sublist

theorem le_retention_of_mem_fresh (h : n ∈ p.fresh now) : now - n.since ≤ p.retention :=
  of_decide_eq_true (List.mem_filter.mp h).2

theorem length_free (p : Pool) (now : Instant) :
    p.free.length = p.expiredCount now + (p.fresh now).length := by
  rw [List.length_eq_countP_add_countP fun n => p.retention < now - n.since, expiredCount, fresh,
    ← List.countP_eq_length_filter]
  simp only [decide_eq_true_eq, Nat.not_lt]

/-- Behind a node that may stay there is none that has to go. -/
theorem InOrder.dropWhile_eq (h : p.InOrder) :
    p.free.dropWhile (p.Expired now ·) = p.fresh now := by
  rw [fresh]
  rw [InOrder] at h
  generalize p.free = free at h ⊢
  induction free with
  | nil => rfl
  | cons n rest ih =>
    obtain ⟨hn, hrest⟩ := List.pairwise_cons.mp h
    by_cases hexpired : p.Expired now n
    · have hnot : ¬now - n.since ≤ p.retention := Nat.not_le.mpr hexpired
      rw [List.dropWhile_cons_of_pos (by simpa using hexpired),
        List.filter_cons_of_neg (by simpa using hnot)]
      exact ih hrest
    · have hall : ∀ m ∈ n :: rest, now - m.since ≤ p.retention := by
        have hfirst : now - n.since ≤ p.retention := Nat.not_lt.mp hexpired
        intro m hm
        rcases List.mem_cons.mp hm with rfl | hm
        · exact hfirst
        · exact Nat.le_trans (Nat.sub_le_sub_left (hn m hm) now) hfirst
      rw [List.dropWhile_cons_of_neg (by simpa using hexpired), List.filter_eq_self.mpr]
      exact fun m hm => decide_eq_true (hall m hm)

theorem InOrder.purge_eq (h : p.InOrder) :
    p.purge now =
      { p with free := p.fresh now, purged := p.purged + p.expiredCount now } := by
  have hlength := p.length_free now
  have hgone : p.free.length - (p.fresh now).length = p.expiredCount now := by omega
  rw [purge, h.dropWhile_eq]
  simp only [hgone]

/-! ### The stamp of a batch -/

theorem le_stamp (p : Pool) (now : Instant) : now ≤ p.stamp now := by
  unfold stamp
  split
  · exact Nat.le_max_left _ _
  · exact Nat.le_refl _

theorem InOrder.since_le_stamp (h : p.InOrder) (hn : n ∈ p.free) : n.since ≤ p.stamp now := by
  rcases List.eq_nil_or_concat' p.free with hfree | ⟨front, last, hfree⟩
  · rw [hfree] at hn
    cases hn
  · have hstamp : p.stamp now = max now last.since := by
      simp [stamp, hfree]
    rw [InOrder, hfree, List.pairwise_append] at h
    rw [hfree, List.mem_append] at hn
    rw [hstamp]
    refine Nat.le_trans ?_ (Nat.le_max_right _ _)
    rcases hn with hfront | hlast
    · exact h.2.2 n hfront last List.mem_cons_self
    · obtain rfl := List.mem_singleton.mp hlast
      exact Nat.le_refl _

/-- Nodes handed back together. -/
def batch (levels : List Level) (since : Instant) : List Spare := levels.map (⟨·, since⟩)

theorem since_of_mem_batch (h : n ∈ batch levels since) : n.since = since := by
  obtain ⟨level, -, rfl⟩ := List.mem_map.mp h
  rfl

/-- A batch with one stamp, no earlier than those before it, leaves the stamps in order. -/
theorem InOrder.append_batch {kept : List Spare} (h : p.InOrder) (hkept : kept.Sublist p.free)
    (hsince : ∀ n ∈ p.free, n.since ≤ since) :
    (kept ++ batch levels since).Pairwise fun m n => m.since ≤ n.since := by
  refine List.pairwise_append.mpr ⟨h.sublist hkept, ?_, ?_⟩
  · refine List.pairwise_of_forall_mem_list fun m hm n hn => ?_
    exact Nat.le_of_eq ((since_of_mem_batch hm).trans (since_of_mem_batch hn).symm)
  · intro m hm n hn
    rw [since_of_mem_batch hn]
    exact hsince m (hkept.subset hm)

/-- What is handed back has not outlived anything yet, whenever that is. -/
theorem InOrder.handBackAll_eq (h : p.InOrder) (levels : List Level) (now : Instant) :
    p.handBackAll levels now =
      { p with
        free := p.fresh now ++ batch levels (p.stamp now)
        purged := p.purged + p.expiredCount now } := by
  have horder : InOrder { p with free := p.free ++ batch levels (p.stamp now) } :=
    h.append_batch (List.Sublist.refl _) fun n hn => h.since_le_stamp hn
  have hage : ∀ n ∈ batch levels (p.stamp now), now - n.since ≤ p.retention := by
    intro n hn
    rw [since_of_mem_batch hn, Nat.sub_eq_zero_of_le (p.le_stamp now)]
    exact Nat.zero_le _
  have hall : (batch levels (p.stamp now)).filter (fun n => now - n.since ≤ p.retention) =
      batch levels (p.stamp now) :=
    List.filter_eq_self.mpr fun n hn => decide_eq_true (hage n hn)
  have hnone : (batch levels (p.stamp now)).countP (fun n => p.retention < now - n.since) = 0 :=
    List.countP_eq_zero.mpr fun n hn => by simpa using hage n hn
  show purge { p with free := p.free ++ batch levels (p.stamp now) } now = _
  rw [horder.purge_eq, fresh, expiredCount, List.filter_append, List.countP_append, hall, hnone]
  rfl

theorem InOrder.draw_cases (h : p.InOrder) (now : Instant) :
    (p.fresh now = [] ∧ (p.draw now).2 =
      { p with
        free := []
        allocated := p.allocated + 1
        purged := p.purged + p.expiredCount now }) ∨
    ∃ kept n, p.fresh now = kept ++ [n] ∧ (p.draw now).2 =
      { p with
        free := kept
        reused := p.reused + 1
        purged := p.purged + p.expiredCount now } := by
  unfold draw
  simp only [h.purge_eq]
  rcases List.eq_nil_or_concat' (p.fresh now) with hnone | ⟨kept, n, hfresh⟩
  · exact .inl ⟨hnone, by rw [hnone]⟩
  · refine .inr ⟨kept, n, hfresh, ?_⟩
    have hne : p.fresh now ≠ [] := by simp [hfresh]
    split
    · next hnil => exact absurd hnil hne
    · simp only [hfresh, List.dropLast_concat]

/-! ### Accesses -/

/-- What a pool is asked for. -/
inductive Access
  | draw
  | handBack (level : Level)
  | handBackAll (levels : List Level)
  | count

/-- What the nodes hold that are handed back. -/
def Access.returns : Access → List Level
  | .draw | .count => []
  | .handBack level => [level]
  | .handBackAll levels => levels

/-- The pool after an access at an instant. -/
def access (p : Pool) (a : Access) (now : Instant) : Pool :=
  match a with
  | .draw => (p.draw now).2
  | .handBack level => p.handBack level now
  | .handBackAll levels => p.handBackAll levels now
  | .count => (p.usableAt now).2

variable {a : Access} {handed : List (Level × Instant)}

/-- **All that an access does to the free list**: it takes nodes out, all that have outlived
the retention time among them, and what it puts behind the others bears one stamp, no earlier
than the access and than any stamp on the list. -/
theorem InOrder.exists_free_access (h : p.InOrder) (a : Access) (now : Instant) :
    ∃ kept since, (p.access a now).free = kept ++ batch a.returns since ∧
      kept.Sublist (p.fresh now) ∧ now ≤ since ∧ ∀ n ∈ p.free, n.since ≤ since := by
  have hsince : now ≤ p.stamp now ∧ ∀ n ∈ p.free, n.since ≤ p.stamp now :=
    ⟨p.le_stamp now, fun n hn => h.since_le_stamp hn⟩
  cases a with
  | draw =>
    obtain ⟨-, hdraw⟩ | ⟨kept, n, hfresh, hdraw⟩ := h.draw_cases now
    · exact ⟨[], _, congrArg Pool.free hdraw, List.nil_sublist _, hsince⟩
    · have hfree : (p.access .draw now).free = kept := congrArg Pool.free hdraw
      have hkept : kept.Sublist (p.fresh now) := hfresh ▸ List.sublist_append_left kept [n]
      exact ⟨kept, _, hfree.trans (List.append_nil kept).symm, hkept, hsince⟩
  | handBack level =>
    have hfree := congrArg Pool.free (h.handBackAll_eq [level] now)
    exact ⟨_, _, hfree, List.Sublist.refl _, hsince⟩
  | handBackAll levels =>
    have hfree := congrArg Pool.free (h.handBackAll_eq levels now)
    exact ⟨_, _, hfree, List.Sublist.refl _, hsince⟩
  | count =>
    have hfree : (p.access .count now).free = p.fresh now := congrArg Pool.free h.purge_eq
    exact ⟨_, _, hfree.trans (List.append_nil _).symm, List.Sublist.refl _, hsince⟩

/-- Every access counts as purged what has outlived the retention time. -/
theorem InOrder.purged_access (h : p.InOrder) (a : Access) (now : Instant) :
    (p.access a now).purged = p.purged + p.expiredCount now := by
  cases a with
  | draw =>
    obtain ⟨-, hdraw⟩ | ⟨kept, n, -, hdraw⟩ := h.draw_cases now
    · exact congrArg Pool.purged hdraw
    · exact congrArg Pool.purged hdraw
  | handBack level => exact congrArg Pool.purged (h.handBackAll_eq [level] now)
  | handBackAll levels => exact congrArg Pool.purged (h.handBackAll_eq levels now)
  | count => exact congrArg Pool.purged h.purge_eq

/-- No access leaves a node that has outlived the retention time. -/
theorem InOrder.le_retention_of_mem_access (h : p.InOrder) (hn : n ∈ (p.access a now).free) :
    now - n.since ≤ p.retention := by
  obtain ⟨kept, since, hfree, hkept, hnow, -⟩ := h.exists_free_access a now
  rw [hfree, List.mem_append] at hn
  rcases hn with hn | hn
  · exact le_retention_of_mem_fresh (hkept.subset hn)
  · rw [since_of_mem_batch hn, Nat.sub_eq_zero_of_le hnow]
    exact Nat.zero_le _

theorem InOrder.access (h : p.InOrder) (a : Access) (now : Instant) :
    (p.access a now).InOrder := by
  obtain ⟨kept, since, hfree, hkept, -, hsince⟩ := h.exists_free_access a now
  rw [InOrder, hfree]
  exact h.append_batch (hkept.trans (p.fresh_sublist now)) hsince

/-! ### Where the nodes come from -/

section

variable {α β : Type} {R : α → β → Prop} {xs xs' : List α} {ys ys' : List β}

theorem sublistForall₂_of_sublist (hsub : xs'.Sublist xs) (h : SublistForall₂ R xs ys) :
    SublistForall₂ R xs' ys := by
  induction h generalizing xs' with
  | nil =>
    rw [List.sublist_nil.mp hsub]
    exact .nil
  | cons hxy _ ih =>
    cases hsub with
    | cons _ hsub => exact .cons_right (ih hsub)
    | cons_cons _ hsub => exact .cons hxy (ih hsub)
  | cons_right _ ih => exact .cons_right (ih hsub)

theorem sublistForall₂_append (h : SublistForall₂ R xs ys) (h' : SublistForall₂ R xs' ys') :
    SublistForall₂ R (xs ++ xs') (ys ++ ys') := by
  induction h with
  | @nil ys =>
    induction ys with
    | nil => exact h'
    | cons y ys ih => exact .cons_right ih
  | cons hxy _ ih => exact .cons hxy ih
  | cons_right _ ih => exact .cons_right ih

end

/-- The nodes on the free list are among those handed back, in the same order, and none has a
stamp earlier than the instant at which it was. -/
def From (p : Pool) (handed : List (Level × Instant)) : Prop :=
  SublistForall₂ (fun n h => n.level = h.1 ∧ h.2 ≤ n.since) p.free handed

theorem From.access (hfrom : p.From handed) (h : p.InOrder) (a : Access) (now : Instant) :
    (p.access a now).From (handed ++ a.returns.map (·, now)) := by
  obtain ⟨kept, since, hfree, hkept, hnow, -⟩ := h.exists_free_access a now
  have hbatch : SublistForall₂ (fun (n : Spare) (h : Level × Instant) =>
      n.level = h.1 ∧ h.2 ≤ n.since) (batch a.returns since) (a.returns.map (·, now)) := by
    induction a.returns with
    | nil => exact .nil
    | cons level rest ih => exact .cons ⟨rfl, hnow⟩ ih
  rw [From, hfree]
  have hsub := hkept.trans (p.fresh_sublist now)
  exact sublistForall₂_append (sublistForall₂_of_sublist hsub hfrom) hbatch

/-! ### Runs -/

/-- The pool after accesses one after the other, each at an instant of its own. -/
def run (p : Pool) (as : List (Access × Instant)) : Pool :=
  as.foldl (fun p a => p.access a.1 a.2) p

/-- The nodes that accesses hand back, each with the instant at which it was. -/
def handedBack (as : List (Access × Instant)) : List (Level × Instant) :=
  as.flatMap fun a => a.1.returns.map (·, a.2)

theorem access_retention (p : Pool) (a : Access) (now : Instant) :
    (p.access a now).retention = p.retention := by
  cases a with
  | draw =>
    show (p.draw now).2.retention = _
    unfold draw
    dsimp only
    split <;> rfl
  | handBack level => rfl
  | handBackAll levels => rfl
  | count => rfl

theorem run_retention (p : Pool) (as : List (Access × Instant)) :
    (p.run as).retention = p.retention := by
  induction as generalizing p with
  | nil => rfl
  | cons a as ih => exact (ih _).trans (p.access_retention a.1 a.2)

theorem run_inOrder (h : p.InOrder) (as : List (Access × Instant)) : (p.run as).InOrder := by
  induction as generalizing p with
  | nil => exact h
  | cons a as ih => exact ih (h.access a.1 a.2)

theorem run_from (hfrom : p.From handed) (h : p.InOrder) (as : List (Access × Instant)) :
    (p.run as).From (handed ++ handedBack as) := by
  induction as generalizing p handed with
  | nil =>
    rw [handedBack, List.flatMap_nil, List.append_nil]
    exact hfrom
  | cons a as ih =>
    have htail := ih (hfrom.access h a.1 a.2) (h.access a.1 a.2)
    rw [List.append_assoc] at htail
    exact htail

/-- **The stamps on the free list**, after any accesses to a new pool and at any instants,
also such as run backwards.  The stamps never decrease along the list.  Its nodes are among
those that were handed back, in that order, and none has a stamp earlier than the instant at
which it was.  The next access, whenever it is, purges exactly the nodes that have outlived
the retention time and counts them; what it leaves has not outlived it.  Of the others it draws
the last one, or none if there is none; it puts behind them what is handed back, with a stamp
no earlier than the access; or it counts them. -/
theorem stamps_of_run (retention : Nat) (as : List (Access × Instant)) (a : Access)
    (now : Instant) :
    let p := (empty retention).run as
    let q := p.access a now
    let kept := p.free.filter fun n => now - n.since ≤ retention
    (p.free.Pairwise fun m n => m.since ≤ n.since) ∧
    SublistForall₂ (fun n h => n.level = h.1 ∧ h.2 ≤ n.since) p.free (handedBack as) ∧
    q.purged = p.purged + p.free.countP (fun n => retention < now - n.since) ∧
    (∀ n ∈ q.free, now - n.since ≤ retention) ∧
    match a with
    | .draw =>
      (kept = [] ∧ q.free = [] ∧ q.allocated = p.allocated + 1 ∧ q.reused = p.reused) ∨
        ∃ n, kept = q.free ++ [n] ∧ q.allocated = p.allocated ∧ q.reused = p.reused + 1
    | .handBack level => ∃ since, now ≤ since ∧ q.free = kept ++ [⟨level, since⟩]
    | .handBackAll levels => ∃ since, now ≤ since ∧ q.free = kept ++ levels.map (⟨·, since⟩)
    | .count => q.free = kept ∧ (p.usableAt now).1 = kept.length := by
  intro p q kept
  have hempty : (empty retention).InOrder := .nil
  have hfrom : (empty retention).From [] := .nil
  have h : p.InOrder := run_inOrder hempty as
  have hretention : p.retention = retention := run_retention (empty retention) as
  have hkept : p.fresh now = kept := by rw [fresh, hretention]
  refine ⟨h, run_from hfrom hempty as, ?_, ?_, ?_⟩
  · rw [← hretention]
    exact h.purged_access a now
  · intro n hn
    rw [← hretention]
    exact h.le_retention_of_mem_access hn
  · rw [← hkept]
    cases a with
    | draw =>
      refine (h.draw_cases now).imp ?_ ?_
      · rintro ⟨hnone, hdraw⟩
        have hq : q = _ := hdraw
        rw [hq]
        exact ⟨hnone, rfl, rfl, rfl⟩
      · rintro ⟨rest, n, hlast, hdraw⟩
        have hq : q = _ := hdraw
        rw [hq]
        exact ⟨n, hlast, rfl, rfl⟩
    | handBack level => exact ⟨_, p.le_stamp now, congrArg Pool.free (h.handBackAll_eq [level] now)⟩
    | handBackAll levels =>
      exact ⟨_, p.le_stamp now, congrArg Pool.free (h.handBackAll_eq levels now)⟩
    | count =>
      have hfree : (p.purge now).free = p.fresh now := congrArg Pool.free h.purge_eq
      exact ⟨hfree, congrArg List.length hfree⟩

/-! A node that is handed back late does not come before the one ahead of it. -/

example :
    let p := (empty 100).run [(.handBack .blank, 50), (.handBack .blank, 0)]
    p.free.map (·.since) = [50, 50] ∧ (p.usableAt 140).1 = 2 ∧ (p.usableAt 151).1 = 0 := by
  decide

end MarketDepth.Pool
