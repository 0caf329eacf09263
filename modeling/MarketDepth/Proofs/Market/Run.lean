/-
MarketDepth/Proofs/Market/Run.lean

Runs of a market.

A market is asked to open books and to take in messages.  A run is a list of such
calls, each with the times of its accesses to the pool; the pool goes from call to
call, whatever books they are about.  A call answers with the book that is open
then, or with what became of the message, and the answers of a run are kept along
with the keys that they are about.

A call changes one book only, the one it is about (`Market.serve_find?_of_ne`).
-/
import MarketDepth.Market

namespace MarketDepth.Market

/-- What can be asked of a market. -/
inductive Request
  /-- To open a book with options of its own. -/
  | openBook (key : Key) (options : Options)
  /-- To pass a message to its book. -/
  | receive (message : Message)
deriving DecidableEq

/-- The key of the book that a request is about. -/
def Request.key : Request → Key
  | .openBook key _ => key
  | .receive message => message.key

/-- A request as it comes in, with the times of its accesses to the pool. -/
structure Call where
  request : Request
  clock : Nat → Instant

/-- What a call answers with. -/
inductive Answer
  /-- The book that is open now. -/
  | opened (channel : Channel)
  /-- What became of the message. -/
  | received (outcome : Except BookError Outcome)

/-- The market after a call, and the answer. -/
def serve (m : Market) (a : Call) : Market × Answer :=
  match a.request with
  | .openBook key options =>
    let m := m.openBook key options
    (m, .opened (m.channelFor key))
  | .receive message =>
    let (m, outcome) := m.receive message a.clock
    (m, .received outcome)

/-- The market after calls that come in one after the other. -/
def run (m : Market) : List Call → Market
  | [] => m
  | a :: as => (m.serve a).1.run as

/-- What the calls answer with, each answer along with the key that it is about. -/
def answers (m : Market) : List Call → List (Key × Answer)
  | [] => []
  | a :: as => (a.request.key, (m.serve a).2) :: (m.serve a).1.answers as

variable {m : Market} {a : Call} {key : Key}

/-! ### What a call changes -/

theorem find?_openBook (m : Market) (key : Key) (options : Options) :
    (m.openBook key options).find? key =
      some ((m.find? key).getD (.empty key options m.holdLimit)) := by
  unfold openBook
  cases h : m.find? key with
  | some c => exact h
  | none => exact ChannelTable.find?_put_self _ _ _

theorem find?_openBook_of_ne {other : Key} (options : Options) (h : key ≠ other) :
    (m.openBook other options).find? key = m.find? key := by
  unfold openBook
  cases m.find? other with
  | some c => rfl
  | none => exact ChannelTable.find?_put_of_ne _ _ h

theorem openBook_frame (m : Market) (key : Key) (options : Options) :
    (m.openBook key options).defaults = m.defaults ∧
      (m.openBook key options).holdLimit = m.holdLimit := by
  unfold openBook
  cases m.find? key with
  | some c => exact ⟨rfl, rfl⟩
  | none => exact ⟨rfl, rfl⟩

theorem find?_receive (m : Market) (message : Message) (clock : Nat → Instant) :
    (m.receive message clock).1.find? message.key =
      some ((m.channelFor message.key).receive message.payload m.pool clock).channel :=
  ChannelTable.find?_put_self _ _ _

/-- A call leaves all books alone but the one it is about. -/
theorem serve_find?_of_ne (h : key ≠ a.request.key) : (m.serve a).1.find? key = m.find? key := by
  obtain ⟨request, clock⟩ := a
  cases request with
  | openBook other options => exact find?_openBook_of_ne options h
  | receive message => exact ChannelTable.find?_put_of_ne _ _ h

theorem serve_defaults (m : Market) (a : Call) : (m.serve a).1.defaults = m.defaults := by
  obtain ⟨request, clock⟩ := a
  cases request with
  | openBook key options => exact (m.openBook_frame key options).1
  | receive message => rfl

theorem serve_holdLimit (m : Market) (a : Call) : (m.serve a).1.holdLimit = m.holdLimit := by
  obtain ⟨request, clock⟩ := a
  cases request with
  | openBook key options => exact (m.openBook_frame key options).2
  | receive message => rfl

end MarketDepth.Market
