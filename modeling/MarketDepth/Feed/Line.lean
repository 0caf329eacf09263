/-
MarketDepth/Feed/Line.lean

What a line of a feed says: a message about a book, or why it is none.

The key is understood first, then the changes one after the other, in each of
them the side before the action.  A deletion goes by the level's number if it
brings one, and otherwise by its price.
-/
import MarketDepth.Feed.Record
import MarketDepth.Message
import MarketDepth.Word

namespace MarketDepth.Feed

inductive LineError
  /-- The line is not the record that it should be. -/
  | json (fault : Json.Fault)
  /-- A word of the line has no meaning, or the book refused the message. -/
  | book (e : BookError)
  /-- A change lacks a field that its action needs. -/
  | missingField (field action : String)
deriving DecidableEq

def LineError.message : LineError → String
  | json .malformed => "json error: malformed"
  | json .mistyped => "json error: mistyped"
  | json .truncated => "json error: truncated"
  | book e => e.message
  | missingField field action => "missing field " ++ field ++ " for " ++ action ++ " change"

/-- What is to be done with a level. -/
inductive Verb
  | insert
  | amend
  | delete
deriving DecidableEq, Repr

def Verb.aliases : List (String × Verb) :=
  [("insert", insert), ("new", insert), ("add", insert),
   ("amend", amend), ("update", amend), ("change", amend),
   ("delete", delete), ("remove", delete)]

def Verb.ofWord (word : String) : Except BookError Verb := Vocabulary.action.lookup aliases word

/-- The level of an insertion or amendment; its price is asked for before its amount. -/
def levelOf (c : Raw.Change) : Except LineError Level :=
  match c.price, c.amount with
  | none, _ => .error (.missingField "price" c.action)
  | some _, none => .error (.missingField "amount" c.action)
  | some price, some amount => .ok ⟨price, amount, c.id⟩

/-- Which level a deletion means. -/
def addressOf (c : Raw.Change) : Except LineError Address :=
  match c.id, c.price with
  | some id, _ => .ok (.id id)
  | none, some price => .ok (.price price)
  | none, none => .error (.missingField "price" c.action)

def changeOf (c : Raw.Change) : Except LineError Change := do
  let side ← (Side.ofWord c.side).mapError .book
  let verb ← (Verb.ofWord c.action).mapError .book
  let action ← match verb with
    | .insert => Action.insert <$> levelOf c
    | .amend => Action.amend <$> levelOf c
    | .delete => Action.delete <$> addressOf c
  return ⟨side, action⟩

def messageOf (raw : Raw.Message) : Except LineError Message := do
  let key ← (Key.ofWords raw.exchange raw.pair raw.segment).mapError .book
  match raw.kind with
  | .snapshot => return ⟨key, .snapshot ⟨raw.id, raw.bids, raw.asks, raw.checksum⟩⟩
  | .update => return ⟨key, .delta ⟨raw.id, ← raw.changes.mapM changeOf, raw.checksum⟩⟩

/-- The message on a line. -/
def decodeLine (line : String) : Except LineError Message := do
  let raw ← (Json.Reader.complete Raw.Message.reader line).mapError .json
  messageOf raw

end MarketDepth.Feed
