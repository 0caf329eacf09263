/-
MarketDepth/Book/Apply.lean

Applying the changes of one message to a book.

A message is refused as a whole, before anything is touched, if the book was
never restored, if the message does not follow the last one, or if it sets a
level with a price that is not positive or a negative amount.  After that only
one thing can stop it: in a book whose levels are named by number, an amendment
of a level that does not rest there.  The changes before it are then in the
book already.
-/
import MarketDepth.Book.Basic
import MarketDepth.Message

namespace MarketDepth

/-- Applies one action to a ladder. -/
def Ladder.apply (l : Ladder) (addressing : Addressing) (action : Action) (pool : Pool)
    (now : Instant) : Except BookError Ladder.Edited :=
  match action with
  | .insert level =>
    if addressing = .id ∧ level.id.isSome then .ok (l.insertId level pool now)
    else .ok (l.setPrice level pool now)
  | .amend level =>
    match addressing, level.id with
    | .id, some id => l.amendId id level pool now
    | _, _ => .ok (l.setPrice level pool now)
  | .delete (.price price) => .ok (l.removePrice price pool now)
  | .delete (.id id) => .ok (l.removeId id pool now)

/-- Refuses a change that sets a price that is not positive or a negative amount. -/
def Change.check (c : Change) : Except BookError Unit :=
  match c.level? with
  | some level =>
    if level.price ≤ .zero ∨ level.amount < .zero then
      .error (.invalidLevel c.side level.price level.amount)
    else .ok ()
  | none => .ok ()

/-- Refuses the first change that is not valid. -/
def checkChanges : List Change → Except BookError Unit
  | [] => .ok ()
  | c :: rest => c.check.bind fun _ => checkChanges rest

namespace Book

/-- The largest number that a message can have. -/
def maxNumber : Int := twoPow 63 - 1

/-- A strictly numbered book takes only the number after its last one. -/
def checkNumber (b : Book) (id : Int) : Except BookError Unit :=
  match b.options.numbering with
  | .loose => .ok ()
  | .strict =>
    if b.lastId = maxNumber then .error (.outOfSequence b.lastId id)
    else if id = b.lastId + 1 then .ok ()
    else .error (.outOfSequence (b.lastId + 1) id)

/-- A book and the pool after some changes, and the error that stopped them if one did. -/
structure Edited where
  book : Book
  pool : Pool
  error : Option BookError

def applyChange (b : Book) (c : Change) (pool : Pool) (now : Instant) :
    Except BookError (Book × Pool) :=
  ((b.ladder c.side).apply b.options.addressing c.action pool now).map fun (l, pool) =>
    (b.setLadder c.side l, pool)

/-- Applies changes in turn up to the first that fails. -/
def applyInTurn (b : Book) (pool : Pool) (now : Instant) : List Change → Edited
  | [] => ⟨b, pool, none⟩
  | c :: rest =>
    match b.applyChange c pool now with
    | .ok (b, pool) => applyInTurn b pool now rest
    | .error e => ⟨b, pool, some e⟩

/-- The checks that a message must pass before it touches the book. -/
def checkMessage (b : Book) (id : Int) (changes : List Change) : Except BookError Unit :=
  if b.restored then (b.checkNumber id).bind fun _ => checkChanges changes
  else .error (.notFound b.key)

/-- The number of the last update after one with number `id`. -/
def advanceId (b : Book) (id : Int) : Int :=
  match b.options.numbering with
  | .strict => id
  | .loose => max b.lastId id

/-- Applies the changes of one message. -/
def apply (b : Book) (id : Int) (changes : List Change) (pool : Pool) (now : Instant) :
    Edited :=
  match b.checkMessage id changes with
  | .error e => ⟨b, pool, some e⟩
  | .ok () =>
    let r := b.applyInTurn pool now changes
    match r.error with
    | some _ => r
    | none => { r with book := { r.book with lastId := r.book.advanceId id } }

end Book

end MarketDepth
