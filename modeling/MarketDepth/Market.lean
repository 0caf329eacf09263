/-
MarketDepth/Market.lean

All books by their keys.

A book is opened on request, with options of its own, or else by the first
message about it, with the options that the market has for such books.  All
books draw their nodes from one pool.  They are kept in the order in which
they were opened.
-/
import MarketDepth.Channel

namespace MarketDepth

/-- What an overview tells about a book. -/
structure Overview where
  key : Key
  phase : Phase
  lastId : Int
  bidLevels : Nat
  askLevels : Nat
  stats : Stats
deriving DecidableEq

def Channel.overview (c : Channel) (key : Key) : Overview :=
  ⟨key, c.phase, c.book.lastId, c.book.bids.size, c.book.asks.size, c.stats⟩

/-- Channels by key. -/
abbrev ChannelTable := List (Key × Channel)

namespace ChannelTable

def find? (t : ChannelTable) (key : Key) : Option Channel :=
  match t with
  | [] => none
  | (k, c) :: rest => if k = key then some c else find? rest key

/-- Sets the channel of a key; a new key comes last. -/
def put (t : ChannelTable) (key : Key) (c : Channel) : ChannelTable :=
  match t with
  | [] => [(key, c)]
  | (k, c') :: rest => if k = key then (k, c) :: rest else (k, c') :: put rest key c

@[simp] theorem find?_put_self (t : ChannelTable) (key : Key) (c : Channel) :
    (t.put key c).find? key = some c := by
  induction t with
  | nil => simp [put, find?]
  | cons p rest ih =>
    simp only [put]
    split <;> simp_all [find?]

theorem find?_put_of_ne (t : ChannelTable) {key key' : Key} (c : Channel) (h : key' ≠ key) :
    (t.put key c).find? key' = t.find? key' := by
  induction t with
  | nil => simp [put, find?, h.symm]
  | cons p rest ih =>
    simp only [put]
    split <;> simp_all [find?, h.symm]

end ChannelTable

/-- All books, and the pool that they share. -/
structure Market where
  /-- The options of books that are opened by a message. -/
  defaults : Options
  holdLimit : Nat
  pool : Pool
  channels : ChannelTable
  /-- How many messages were taken in. -/
  messages : Nat

namespace Market

def empty (defaults : Options) (holdLimit : Nat) (pool : Pool) : Market :=
  ⟨defaults, holdLimit, pool, [], 0⟩

def find? (m : Market) (key : Key) : Option Channel := m.channels.find? key

def size (m : Market) : Nat := m.channels.length

def keys (m : Market) : List Key := m.channels.map (·.1)

def overviews (m : Market) : List Overview := m.channels.map fun (k, c) => c.overview k

/-- Opens a book with options of its own.  A book that is open stays as it is. -/
def openBook (m : Market) (key : Key) (options : Options) : Market :=
  match m.find? key with
  | some _ => m
  | none => { m with channels := m.channels.put key (.empty key options m.holdLimit) }

/-- The channel that a message about `key` goes to. -/
def channelFor (m : Market) (key : Key) : Channel :=
  (m.find? key).getD (.empty key m.defaults m.holdLimit)

/-- The market after a message, and what became of the message. -/
abbrev Received := Market × Except BookError Outcome

/-- Passes a message to its book, which is opened if need be. -/
def receive (m : Market) (message : Message) (clock : Nat → Instant) : Received :=
  let step := (m.channelFor message.key).receive message.payload m.pool clock
  ({ m with
    channels := m.channels.put message.key step.channel
    pool := step.pool
    messages := m.messages + 1 }, step.outcome)

/-! ### Reading -/

/-- The channel of a book to which a snapshot was ever loaded. -/
def restored? (m : Market) (key : Key) : Except BookError Channel :=
  match (m.find? key).filter (·.book.restored) with
  | some c => .ok c
  | none => .error (.notFound key)

/-- A copy of a book that may be read. -/
def view (m : Market) (key : Key) : Except BookError View :=
  match m.find? key with
  | some c => c.view
  | none => .error (.notFound key)

/-- What a market order would do to a book. -/
def simulate (m : Market) (key : Key) (amount : Decimal) (buy : Bool) :
    Except Simulation.Failure Simulation :=
  match m.restored? key with
  | .ok c => c.simulate amount buy
  | .error e => .error (.refused e)

end Market

end MarketDepth
