/-
MarketDepth/Proofs/Book/Ids.lean

The numbers of the levels in a book.

In a book whose levels are named by number no two levels of a side should have one
number.  Changes see to that, and so does a verified book when it loads a snapshot.
A book that is not verified merges levels at one price, but it does not look at
their numbers: it keeps a number twice if a snapshot brings it at two prices.

Main result: `Book.distinctIds_of_run`, that this is the only way in which numbers
ever meet.
-/
import MarketDepth.Proofs.Book.Calls
import MarketDepth.Proofs.Book.Intake

namespace MarketDepth.Book

variable {b : Book} {a : Call}

/-- No two levels on one side of the book have one number. -/
def DistinctIds (b : Book) : Prop := b.bids.DistinctIds ∧ b.asks.DistinctIds

theorem eachSide_distinctIds : b.EachSide (fun _ l => l.DistinctIds) ↔ b.DistinctIds :=
  eachSide_iff

/-- What is asked of the book leaves no number twice on a side of a snapshot: the
book is verified, or the levels that it keeps have distinct numbers. -/
def KeepsIdsDistinct (b : Book) : Request → Prop
  | .restore bids asks _ => b.options.verify = false →
    Levels.DistinctIds (Levels.arrange .bid bids) ∧ Levels.DistinctIds (Levels.arrange .ask asks)
  | _ => True

/-! ### One call -/

theorem distinctIds_kept : KeptByEdits .id fun _ l => l.DistinctIds := by
  intro side l l' action _ hl hedit
  exact hedit.distinctIds hl

theorem perform_distinctIds (hid : b.options.addressing = .id) (h : b.DistinctIds)
    (hkeeps : b.KeepsIdsDistinct a.request) : (b.perform a).DistinctIds := by
  rw [← eachSide_distinctIds] at h ⊢
  refine perform_eachSide (hid ▸ distinctIds_kept) ?_ h
  intro bids asks id hrequest bids' asks' hsides
  cases hverify : b.options.verify with
  | true =>
    obtain ⟨hbids, hasks⟩ := intakeSides_ok hsides
    exact ⟨(intake_checked hverify hbids).2, (intake_checked hverify hasks).2⟩
  | false =>
    rw [intakeSides_of_unverified hverify] at hsides
    obtain ⟨rfl, rfl⟩ := Prod.mk.inj (Except.ok.inj hsides)
    rw [hrequest] at hkeeps
    exact hkeeps hverify

/-- A book in which no two levels have one number after a call was not made to keep
a number twice. -/
theorem keepsIdsDistinct_of_perform (h : (b.perform a).DistinctIds) :
    b.KeepsIdsDistinct a.request := by
  cases hrequest : a.request with
  | restore bids asks id =>
    intro hverify
    obtain ⟨bids', asks', hsides, hloaded⟩ | ⟨fault, hfault, -⟩ := perform_restore_cases hrequest
    · rw [intakeSides_of_unverified hverify] at hsides
      obtain ⟨rfl, rfl⟩ := Prod.mk.inj (Except.ok.inj hsides)
      rw [hloaded] at h
      exact h
    · rw [intakeSides_of_unverified hverify] at hfault
      cases hfault
  | update | apply | invalidate | setVerify => trivial

/-- A verified book is never made to keep a number twice. -/
theorem keepsIdsDistinct_of_verified (hverify : b.options.verify = true) :
    b.KeepsIdsDistinct a.request := by
  cases a.request with
  | restore bids asks id =>
    intro hnot
    rw [hverify] at hnot
    cases hnot
  | update | apply | invalidate | setVerify => trivial

/-- Nor is any book by a snapshot that brings each number once on a side. -/
theorem keepsIdsDistinct_of_distinctIds (h : ∀ bids asks id, a.request = .restore bids asks id →
    Levels.DistinctIds bids ∧ Levels.DistinctIds asks) : b.KeepsIdsDistinct a.request := by
  cases hrequest : a.request with
  | restore bids asks id =>
    intro _
    obtain ⟨hbids, hasks⟩ := h bids asks id hrequest
    exact ⟨Levels.arrange_distinctIds .bid hbids, Levels.arrange_distinctIds .ask hasks⟩
  | update | apply | invalidate | setVerify => trivial

/-! ### Runs -/

theorem run_distinctIds {as : List Call} (hid : b.options.addressing = .id) (h : b.DistinctIds)
    (hkeeps : ∀ before a after, as = before ++ a :: after →
      (b.run before).KeepsIdsDistinct a.request) : (b.run as).DistinctIds := by
  induction as generalizing b with
  | nil => exact h
  | cons a as ih =>
    have hid' : (b.perform a).options.addressing = .id := (b.perform_addressing a).trans hid
    refine ih hid' (perform_distinctIds hid h (hkeeps [] a as rfl)) ?_
    rintro before c after rfl
    exact hkeeps (a :: before) c after rfl

/-- A book stays verified as long as it is not told otherwise. -/
theorem run_verify {as : List Call} (h : ∀ a ∈ as, ∀ verify, a.request ≠ .setVerify verify) :
    (b.run as).options.verify = b.options.verify := by
  induction as generalizing b with
  | nil => rfl
  | cons a as ih =>
    obtain ⟨ha, has⟩ := List.forall_mem_cons.mp h
    exact (ih has).trans (congrArg Options.verify (perform_options ha))

theorem distinctIds_empty (key : Key) (options : Options) : (empty key options).DistinctIds :=
  ⟨List.nodup_nil, List.nodup_nil⟩

/-- **When numbers meet** in a book whose levels are named by number: all through a
run no two levels of a side have one number, exactly if none of the snapshots that
the book loads while it is not verified makes it keep a number twice.  So they never
meet in a book that is verified, nor if no side of a snapshot brings a number twice. -/
theorem distinctIds_of_run (key : Key) {options : Options} (hid : options.addressing = .id)
    (as : List Call) :
    let new := empty key options
    ((∀ before after, as = before ++ after → (new.run before).DistinctIds) ↔
      ∀ before a after, as = before ++ a :: after →
        (new.run before).KeepsIdsDistinct a.request) ∧
    (options.verify = true → (∀ a ∈ as, ∀ verify, a.request ≠ .setVerify verify) →
      (new.run as).DistinctIds) ∧
    ((∀ a ∈ as, ∀ bids asks id, a.request = .restore bids asks id →
        Levels.DistinctIds bids ∧ Levels.DistinctIds asks) →
      (new.run as).DistinctIds) := by
  intro new
  have hrun : ∀ as, (∀ before a after, as = before ++ a :: after →
      (new.run before).KeepsIdsDistinct a.request) → (new.run as).DistinctIds :=
    fun as => run_distinctIds hid (distinctIds_empty key options)
  refine ⟨⟨?_, ?_⟩, ?_, ?_⟩
  · rintro h before a after rfl
    have hnext := h (before ++ [a]) after (by simp)
    rw [run_concat] at hnext
    exact keepsIdsDistinct_of_perform hnext
  · rintro h before after rfl
    apply hrun
    rintro earlier a later rfl
    exact h earlier a (later ++ after) (by simp)
  · intro hverify has
    apply hrun
    rintro before a after rfl
    have hstill : (new.run before).options.verify = true :=
      (run_verify fun c hc => has c (List.mem_append_left _ hc)).trans hverify
    exact keepsIdsDistinct_of_verified hstill
  · intro has
    apply hrun
    rintro before a after rfl
    exact keepsIdsDistinct_of_distinctIds (has a (by simp))

theorem toNat_lt_limit (n : UInt8) : n.toNat < Decimal.limit :=
  Nat.lt_trans n.toNat_lt (by decide)

/-- A level with a whole price, a whole amount and a number. -/
def numbered (price amount : UInt8) (id : Int) : Level :=
  ⟨.ofNat price.toNat (toNat_lt_limit price), .ofNat amount.toNat (toNat_lt_limit amount), some id⟩

/-- A new book which is not verified, with levels named by number. -/
def byId : Book := empty ⟨"binance", ⟨"BTC", "USDT"⟩, .spot⟩ { addressing := .id }

/-! The snapshot brings each number once on a side.  Then numbers move: one is inserted
at the price of another, and amended at a price of its own. -/

def movingSnapshot : Call :=
  ⟨.restore [numbered 10 1 1, numbered 9 1 2] [numbered 11 1 1] 1, .empty 0, 0⟩

def movingRun : List Call :=
  [movingSnapshot,
    ⟨.apply 2 [⟨.bid, .insert (numbered 9 4 1)⟩], .empty 0, 0⟩,
    ⟨.apply 3 [⟨.bid, .amend (numbered 8 4 1)⟩, ⟨.ask, .insert (numbered 12 2 2)⟩], .empty 0, 0⟩]

theorem keepsIdsDistinct_movingSnapshot : byId.KeepsIdsDistinct movingSnapshot.request := by
  intro _
  rw [Levels.arrange_of_sound (by decide), Levels.arrange_of_sound (by decide)]
  decide

theorem distinctIds_of_movingRun :
    byId.options.addressing = .id ∧
      ∀ before after, movingRun = before ++ after → (byId.run before).DistinctIds := by
  refine ⟨rfl, (distinctIds_of_run _ rfl movingRun).1.mpr ?_⟩
  intro before a after h
  -- only the first call loads a snapshot
  cases before with
  | nil =>
    obtain ⟨rfl, -⟩ := List.cons.inj h
    exact keepsIdsDistinct_movingSnapshot
  | cons first before =>
    have ha : a ∈ movingRun.tail := by
      rw [h]
      simp
    rcases List.mem_cons.mp ha with rfl | ha
    · trivial
    · obtain rfl := List.mem_singleton.mp ha
      trivial

/-- A snapshot with one number at two prices. -/
def repeatingSnapshot : Call :=
  ⟨.restore [numbered 10 1 7, numbered 9 1 7] [] 1, .empty 0, 0⟩

theorem repeatedId_of_repeatingSnapshot :
    byId.options.addressing = .id ∧ ¬(byId.run [repeatingSnapshot]).DistinctIds := by
  refine ⟨rfl, ?_⟩
  intro h
  have hbids := (keepsIdsDistinct_of_perform (a := repeatingSnapshot) h rfl).1
  rw [Levels.arrange_of_sound (by decide)] at hbids
  revert hbids
  decide

end MarketDepth.Book
