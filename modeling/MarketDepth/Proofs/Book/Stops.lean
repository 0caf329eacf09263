/-
MarketDepth/Proofs/Book/Stops.lean

Where the changes of a message stop.

A message is looked at twice.  Before anything is touched it is checked as a whole
(`Book.Admits`): its number, and the levels that it sets.  A message that does not pass
leaves book and pool as they were.  Then its changes are applied in turn, and what can
stop them shows only on the way: where levels are named by number, a change may amend a
number that does not rest on its side (`Book.Lacks`), and whether it does hangs on the
changes before it, which may have moved the number, overwritten it or taken it away.
Those before the first such change are in the book then, and nothing else is.

Main result: `Book.stops_of_apply`.
-/
import MarketDepth.Proofs.Book.Messages
import MarketDepth.Proofs.Ladder.Ids
import MarketDepth.Proofs.Ladder.Sound

namespace MarketDepth.Book

variable {b : Book} {pool : Pool} {now : Instant} {id i : Int} {c : Change}
variable {cs ds before rest : List Change} {e : BookError}

/-! ### The checks that are made first -/

/-- A message may have this number: in a strictly numbered book, the one after the last
one, as long as there is one. -/
def Expects (b : Book) (id : Int) : Prop :=
  b.options.numbering = .strict → b.lastId ≠ maxNumber ∧ id = b.lastId + 1

/-- A message passes the checks that are made before anything is touched. -/
structure Admits (b : Book) (id : Int) (cs : List Change) : Prop where
  restored : b.restored = true
  expected : b.Expects id
  settable : ∀ c ∈ cs, ∀ level, c.action.Sets level → level.Settable

theorem checkNumber_eq_ok_iff : b.checkNumber id = .ok () ↔ b.Expects id := by
  unfold checkNumber Expects
  cases b.options.numbering with
  | loose => simp
  | strict =>
    by_cases hlast : b.lastId = maxNumber
    · simp [hlast]
    · by_cases hid : id = b.lastId + 1
      · simp [hlast, hid]
      · simp [hlast, hid]

theorem checkMessage_eq_ok_iff : b.checkMessage id cs = .ok () ↔ b.Admits id cs := by
  have hsettable : checkChanges cs = .ok () ↔
      ∀ c ∈ cs, ∀ level, c.action.Sets level → level.Settable := by
    simp only [checkChanges_eq_ok_iff, Change.check_eq_ok_iff]
  constructor
  · intro h
    obtain ⟨hrestored, hnumber, hchanges⟩ := checkMessage_ok h
    exact ⟨hrestored, checkNumber_eq_ok_iff.mp hnumber, hsettable.mp hchanges⟩
  · intro h
    rw [checkMessage, if_pos h.restored, checkNumber_eq_ok_iff.mpr h.expected]
    exact hsettable.mpr h.settable

/-- The first changes of a message that passes would pass by themselves. -/
theorem Admits.of_append (h : b.Admits id (cs ++ ds)) : b.Admits id cs where
  restored := h.restored
  expected := h.expected
  settable c hc := h.settable c (List.mem_append_left ds hc)

/-- A message that does not pass has no effect. -/
theorem apply_of_not_admits (h : ¬b.Admits id cs) (pool : Pool) (now : Instant) :
    ∃ e, b.apply id cs pool now = ⟨b, pool, some e⟩ ∧
      (e = .notFound b.key ∨ (∃ expected actual, e = .outOfSequence expected actual) ∨
        ∃ side price amount, e = .invalidLevel side price amount) := by
  cases hm : b.checkMessage id cs with
  | ok u => exact absurd (checkMessage_eq_ok_iff.mp hm) h
  | error e =>
    refine ⟨e, by rw [apply, hm], ?_⟩
    by_cases hrestored : b.restored = true
    · rcases checkMessage_error hrestored hm with hnumber | hchanges
      · exact .inr (.inl hnumber)
      · exact .inr (.inr (checkChanges_error hchanges))
    · rw [checkMessage, if_neg hrestored] at hm
      exact .inl (Except.error.inj hm).symm

/-! ### Changes in turn -/

/-- The change amends a number that does not rest on its side of the book. -/
def Lacks (b : Book) (c : Change) (i : Int) : Prop :=
  ∃ level, c.action = .amend level ∧ level.id = some i ∧
    i ∉ Levels.ids (b.ladder c.side).levels

theorem applyChange_eq_error_iff : b.applyChange c pool now = .error e ↔
    b.options.addressing = .id ∧ ∃ i, b.Lacks c i ∧ e = .levelNotFound i := by
  have hladder : b.applyChange c pool now = .error e ↔
      (b.ladder c.side).apply b.options.addressing c.action pool now = .error e := by
    unfold applyChange
    cases (b.ladder c.side).apply b.options.addressing c.action pool now <;> simp [Except.map]
  rw [hladder, Ladder.apply_eq_error_iff]
  constructor
  · rintro ⟨hid, level, i, haction, hnumber, habsent, rfl⟩
    exact ⟨hid, i, ⟨level, haction, hnumber, habsent⟩, rfl⟩
  · rintro ⟨hid, i, ⟨level, haction, hnumber, habsent⟩, rfl⟩
    exact ⟨hid, level, i, haction, hnumber, habsent, rfl⟩

/-- Changes are applied one after the other, up to the first that fails. -/
theorem applyInTurn_append (b : Book) (pool : Pool) (now : Instant) (cs ds : List Change) :
    b.applyInTurn pool now (cs ++ ds) =
      let r := b.applyInTurn pool now cs
      match r.error with
      | none => r.book.applyInTurn r.pool now ds
      | some _ => r := by
  induction cs generalizing b pool with
  | nil => rfl
  | cons c cs ih =>
    rw [List.cons_append, applyInTurn, applyInTurn]
    cases b.applyChange c pool now with
    | error e => rfl
    | ok r => exact ih r.1 r.2

/-- What stops changes stops them there: those before it are in the book. -/
theorem applyInTurn_of_lacks (hid : b.options.addressing = .id)
    (hbefore : (b.applyInTurn pool now before).error = none)
    (hlacks : (b.applyInTurn pool now before).book.Lacks c i) (rest : List Change) :
    b.applyInTurn pool now (before ++ c :: rest) =
      { b.applyInTurn pool now before with error := some (.levelNotFound i) } := by
  have hoptions := (b.applyInTurn_frame pool now before).1.options
  have hfails : (b.applyInTurn pool now before).book.applyChange c
      (b.applyInTurn pool now before).pool now = .error (.levelNotFound i) :=
    applyChange_eq_error_iff.mpr ⟨by rw [hoptions, hid], i, hlacks, rfl⟩
  simp only [applyInTurn_append, hbefore, applyInTurn, hfails]

/-- Changes that stop do so at one that amends a number which does not rest. -/
theorem exists_lacks (h : (b.applyInTurn pool now cs).error = some e) :
    b.options.addressing = .id ∧ ∃ before c rest i, cs = before ++ c :: rest ∧
      (b.applyInTurn pool now before).error = none ∧
      (b.applyInTurn pool now before).book.Lacks c i := by
  induction cs generalizing b pool with
  | nil => cases h
  | cons c cs ih =>
    rw [applyInTurn] at h
    cases hc : b.applyChange c pool now with
    | error e' =>
      obtain ⟨hid, i, hlacks, -⟩ := applyChange_eq_error_iff.mp hc
      exact ⟨hid, [], c, cs, i, rfl, rfl, hlacks⟩
    | ok r =>
      rw [hc] at h
      obtain ⟨hid, before, x, rest, i, rfl, hbefore, hlacks⟩ := ih h
      rw [(applyChange_ok hc).1.options] at hid
      refine ⟨hid, c :: before, x, rest, i, rfl, ?_, ?_⟩
      · rwa [applyInTurn, hc]
      · rwa [applyInTurn, hc]

/-- If no change fails, then none amends a number that does not rest. -/
theorem not_lacks_of_error_none (hid : b.options.addressing = .id)
    (h : (b.applyInTurn pool now (before ++ c :: rest)).error = none) (i : Int) :
    ¬(b.applyInTurn pool now before).book.Lacks c i := by
  have hbefore : (b.applyInTurn pool now before).error = none := by
    rw [applyInTurn_append] at h
    cases hb : (b.applyInTurn pool now before).error with
    | none => rfl
    | some e => simp [hb] at h
  intro hlacks
  rw [applyInTurn_of_lacks hid hbefore hlacks] at h
  cases h

/-! ### Messages -/

/-- Of a message that passes the checks, the changes are applied in turn; the last number
advances if none of them fails. -/
theorem Admits.apply_eq (h : b.Admits id cs) :
    b.apply id cs pool now =
      let r := b.applyInTurn pool now cs
      match r.error with
      | none => { r with book := { r.book with lastId := b.advanceId id } }
      | some _ => r := by
  have hframe := b.applyInTurn_frame pool now cs
  rw [apply, checkMessage_eq_ok_iff.mpr h]
  dsimp only
  cases (b.applyInTurn pool now cs).error with
  | some e => rfl
  | none =>
    simp only [advanceId]
    rw [hframe.1.options, hframe.2]

theorem Admits.error_eq (h : b.Admits id cs) :
    (b.apply id cs pool now).error = (b.applyInTurn pool now cs).error := by
  simp only [h.apply_eq]
  split <;> rfl

/-- The last number has no part in what rests in the book. -/
theorem Admits.lacks_iff (h : b.Admits id cs) :
    (b.apply id cs pool now).book.Lacks c i ↔ (b.applyInTurn pool now cs).book.Lacks c i := by
  have hladder : (b.apply id cs pool now).book.ladder c.side =
      (b.applyInTurn pool now cs).book.ladder c.side := by
    rw [h.apply_eq]
    dsimp only
    cases (b.applyInTurn pool now cs).error <;> cases c.side <;> rfl
  rw [Lacks, Lacks, hladder]

/-- Any error but that of a number which does not rest is a refusal. -/
theorem apply_refused (he : (b.apply id cs pool now).error = some e)
    (hother : ∀ i, e ≠ .levelNotFound i) :
    ¬b.Admits id cs ∧ b.apply id cs pool now = ⟨b, pool, some e⟩ ∧
      (e = .notFound b.key ∨ (∃ expected actual, e = .outOfSequence expected actual) ∨
        ∃ side price amount, e = .invalidLevel side price amount) := by
  by_cases hadmits : b.Admits id cs
  · rw [hadmits.error_eq] at he
    obtain ⟨i, rfl⟩ := applyInTurn_error he
    exact absurd rfl (hother i)
  · obtain ⟨e', hr, hrefused⟩ := apply_of_not_admits hadmits pool now
    rw [hr] at he
    obtain rfl := Option.some.inj he
    exact ⟨hadmits, hr, hrefused⟩

/-- A message that stops at a number which does not rest has passed the checks, and the
changes before that one are in the book. -/
theorem apply_stopped (he : (b.apply id cs pool now).error = some (.levelNotFound i)) :
    b.Admits id cs ∧ b.options.addressing = .id ∧ ∃ before c rest, cs = before ++ c :: rest ∧
      (b.applyInTurn pool now before).error = none ∧
      (b.applyInTurn pool now before).book.Lacks c i ∧
      b.apply id cs pool now =
        { b.applyInTurn pool now before with error := some (.levelNotFound i) } := by
  by_cases hadmits : b.Admits id cs
  · rw [hadmits.error_eq] at he
    obtain ⟨hid, before, c, rest, j, rfl, hreached, hlacks⟩ := exists_lacks he
    have hstops := applyInTurn_of_lacks hid hreached hlacks rest
    rw [hstops] at he
    obtain rfl := BookError.levelNotFound.inj (Option.some.inj he)
    refine ⟨hadmits, hid, before, c, rest, rfl, hreached, hlacks, ?_⟩
    simp only [hadmits.apply_eq, hstops]
  · obtain ⟨e, hr, hrefused⟩ := apply_of_not_admits hadmits pool now
    rw [hr] at he
    obtain rfl := Option.some.inj he
    simp at hrefused

/-- A message has no error if and only if it passes the checks and none of its changes
amends a number that does not rest when its turn comes. -/
theorem apply_error_eq_none_iff : (b.apply id cs pool now).error = none ↔
    b.Admits id cs ∧ (b.options.addressing = .id → ∀ before c rest i,
      cs = before ++ c :: rest → ¬(b.apply id before pool now).book.Lacks c i) := by
  constructor
  · intro h
    have hadmits : b.Admits id cs := by
      by_contra hadmits
      obtain ⟨e, hr, -⟩ := apply_of_not_admits hadmits pool now
      rw [hr] at h
      cases h
    refine ⟨hadmits, ?_⟩
    rintro hid before c rest i rfl
    rw [hadmits.error_eq] at h
    rw [hadmits.of_append.lacks_iff]
    exact not_lacks_of_error_none hid h i
  · rintro ⟨hadmits, hrest⟩
    rw [hadmits.error_eq]
    cases he : (b.applyInTurn pool now cs).error with
    | none => rfl
    | some e =>
      obtain ⟨hid, before, c, rest, i, rfl, -, hlacks⟩ := exists_lacks he
      exact absurd (hadmits.of_append.lacks_iff.mpr hlacks) (hrest hid before c rest i rfl)

/-- **Where the changes of a message stop.**  The error is that of a number that does not
rest, or else the message was refused by the checks that are made first: it is for a book
that was never restored, out of sequence or not valid, and book and pool stay as they were.
If a number does not rest, then the message passed the checks, levels are named by number,
the last number stays, and the book holds what it does after those changes alone that come
before the first one which amends a number that does not rest on its side at that point; the
error names this number.  A message has no error if and only if it passes the checks and,
where levels are named by number, has no such change. -/
theorem stops_of_apply (b : Book) (id : Int) (cs : List Change) (pool : Pool) (now : Instant) :
    let r := b.apply id cs pool now
    let upTo := fun before => b.apply id before pool now
    (∀ e, r.error = some e → (∀ i, e ≠ .levelNotFound i) →
      ¬b.Admits id cs ∧ r.book = b ∧ r.pool = pool ∧
        (e = .notFound b.key ∨ (∃ expected actual, e = .outOfSequence expected actual) ∨
          ∃ side price amount, e = .invalidLevel side price amount)) ∧
    (∀ i, r.error = some (.levelNotFound i) →
      b.Admits id cs ∧ b.options.addressing = .id ∧ r.book.lastId = b.lastId ∧
        ∃ before c rest, cs = before ++ c :: rest ∧ (upTo before).book.Lacks c i ∧
          (∀ earlier x later j, before = earlier ++ x :: later →
            ¬(upTo earlier).book.Lacks x j) ∧
          (upTo before).error = none ∧ r.pool = (upTo before).pool ∧
          ∀ side, r.book.ladder side = (upTo before).book.ladder side) ∧
    (r.error = none ↔ b.Admits id cs ∧ (b.options.addressing = .id →
      ∀ before c rest i, cs = before ++ c :: rest → ¬(upTo before).book.Lacks c i)) := by
  intro r upTo
  refine ⟨?_, ?_, apply_error_eq_none_iff⟩
  · intro e he hother
    obtain ⟨hnot, hr, hrefused⟩ := apply_refused he hother
    have hr : r = ⟨b, pool, some e⟩ := hr
    rw [hr]
    exact ⟨hnot, rfl, rfl, hrefused⟩
  · intro i he
    obtain ⟨hadmits, hid, before, c, rest, rfl, hreached, hlacks, hr⟩ := apply_stopped he
    have hr : r = { b.applyInTurn pool now before with error := some (.levelNotFound i) } := hr
    have hbefore : b.Admits id before := hadmits.of_append
    have herror : (upTo before).error = none := hbefore.error_eq.trans hreached
    have hupTo : upTo before = { b.applyInTurn pool now before with
        book := { (b.applyInTurn pool now before).book with lastId := b.advanceId id } } := by
      show b.apply id before pool now = _
      simp only [hbefore.apply_eq, hreached]
    refine ⟨hadmits, hid, ?_, before, c, rest, rfl, hbefore.lacks_iff.mpr hlacks,
      (apply_error_eq_none_iff.mp herror).2 hid, herror, ?_, ?_⟩
    · rw [hr]
      exact (b.applyInTurn_frame pool now before).2
    · rw [hr, hupTo]
    · intro side
      rw [hr, hupTo]
      cases side <;> rfl

/-! Two bids with numbers.  The better one is inserted again at the price of the other,
which it takes the stead of; then the other one is amended. -/

def numberedBids : Book where
  key := ⟨"binance", ⟨"BTC", "USDT"⟩, .spot⟩
  options := { addressing := .id }
  bids := ⟨.bid, [⟨.hundred, .two, some 1⟩, ⟨.two, .two, some 2⟩]⟩
  asks := ⟨.ask, []⟩
  lastId := 1
  restored := true
  invalidation := none

example :
    let r := numberedBids.apply 2
      [⟨.bid, .insert ⟨.two, .hundred, some 1⟩⟩, ⟨.bid, .amend ⟨.hundred, .two, some 2⟩⟩]
      (.empty 0) 0
    r.error = some (.levelNotFound 2) ∧ r.book.lastId = 1 ∧
      r.book.bids.levels = [⟨.two, .hundred, some 1⟩] := by decide

end MarketDepth.Book
