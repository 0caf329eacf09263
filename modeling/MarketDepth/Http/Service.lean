/-
MarketDepth/Http/Service.lean

Answering requests about the books of a market.

The service only reads.  It knows six routes and answers reads of them; any
other method is refused on a known route, and a preflight request is granted
everywhere.
-/
import MarketDepth.Decimal.Reader
import MarketDepth.Http.Metrics
import MarketDepth.Http.Uri
import MarketDepth.Json.Encode
import MarketDepth.Word

namespace MarketDepth

/-! ### The JSON form of answers -/

def Stats.toJson (s : Stats) : Json :=
  .object [("applied", .ofNat s.applied), ("buffered", .ofNat s.held),
    ("discarded", .ofNat s.discarded), ("snapshots", .ofNat s.snapshots),
    ("resyncs", .ofNat s.desyncs)]

def Overview.toJson (s : Overview) : Json :=
  .object [("key", s.key.toJson), ("state", .text s.phase.name),
    ("last_update_id", .int s.lastId), ("bid_levels", .ofNat s.bidLevels),
    ("ask_levels", .ofNat s.askLevels), ("stats", s.stats.toJson)]

def Pool.toJson (p : Pool) : Json :=
  .object [("allocated", .ofNat p.allocated), ("reused", .ofNat p.reused),
    ("purged", .ofNat p.purged), ("resident", .ofNat p.spareCount)]

namespace Http

inductive Body
  | json (v : Json)
  | lines (ls : List String)
  | empty

structure Response where
  status : Nat
  body : Body

/-- What requests are answered from. -/
structure Service where
  market : Market
  /-- The service has loaded what it was to load first. -/
  ready : Bool
  /-- Metrics are on show. -/
  recorder : Bool

/-! ### Status codes -/

def ok (v : Json) : Response := ⟨200, .json v⟩

/-- The status for an error of a book. -/
def statusOf : BookError → Nat
  | .notFound _ => 404
  | .invalidated .. => 503
  | _ => 400

def refusal (e : BookError) : Response :=
  ⟨statusOf e, .json (.object [("error", .text e.message)])⟩

def badRequest : Response := ⟨400, .empty⟩

def notFound : Response := ⟨404, .empty⟩

def methodNotAllowed : Response := ⟨405, .empty⟩

/-! ### Depth -/

/-- The middle of the best prices and the distance between them, where both sides have levels. -/
def topFigures (v : View) : Except Decimal.OutOfRange (Option Decimal × Option Decimal) :=
  match v.bestBid, v.bestAsk with
  | some bid, some ask => do
    let sum ← bid.add ask
    let mid ← sum.div .two
    let spread ← ask.sub bid
    return (some mid, some spread)
  | _, _ => return (none, none)

def depthJson (v : View) (mid spread : Option Decimal) : Json :=
  .object [("key", v.key.toJson), ("bids", .ofList Level.toJson v.bids),
    ("asks", .ofList Level.toJson v.asks), ("last_update_id", .int v.lastId),
    ("restored_from_snapshot", .bool v.restored), ("verify_enabled", .bool v.verify),
    ("mid_price", .ofOption Decimal.toJson mid), ("spread", .ofOption Decimal.toJson spread)]

/-- An answer, or the operation that went out of range. -/
abbrev Answer := Except Decimal.OutOfRange Response

def depth (s : Service) (exchange pair segment : String) : Answer :=
  match (Key.ofWords exchange pair segment).bind s.market.view with
  | .error e => return refusal e
  | .ok v => do
    let (mid, spread) ← topFigures v
    return ok (depthJson v mid spread)

/-! ### Simulation -/

/-- The value of a name that comes exactly once. -/
def single? (query : List (String × String)) (name : String) : Option String :=
  match query.filter (·.1 == name) with
  | [(_, value)] => some value
  | _ => none

/-- The order that a query asks about: its amount and the word for its side. -/
def orderOf? (query : List (String × String)) : Option (Decimal × String) := do
  let amount ← (← single? query "amount") |> Decimal.ofText?
  let side ← single? query "side"
  return (amount, side)

def simulate (s : Service) (exchange pair segment : String) (amount : Decimal) (side : String) :
    Answer :=
  let parsed := do
    let key ← Key.ofWords exchange pair segment
    let side ← Side.ofWord side
    return (key, side)
  match parsed with
  | .error e => return refusal e
  | .ok (key, side) =>
    match s.market.simulate key amount (side = .bid) with
    | .ok result => return ok result.toJson
    | .error (.refused e) => return refusal e
    | .error (.outOfRange e) => throw e

/-! ### Other pages -/

def health : Response := ok (.object [("status", .text "ok")])

def readiness (s : Service) : Response :=
  ⟨if s.ready then 200 else 503,
    .json (.object [("ready", .bool s.ready), ("books", .ofNat s.market.size)])⟩

/-- Books on the status page stand in the order of their segment, exchange and pair. -/
def overviewOrder (a b : Overview) : Bool :=
  let text (k : Key) : String :=
    (Json.object [("asset", k.segment.toJson), ("exchange", .text k.exchange),
      ("pair", k.pair.toJson)]).render
  text a.key ≤ text b.key

def statusPage (s : Service) : Response :=
  ok (.object [
    ("status", .text (if s.ready then "running" else "starting")),
    ("books", .ofList Overview.toJson (s.market.overviews.mergeSort overviewOrder)),
    ("pool", s.market.pool.toJson)])

def metricsPage (s : Service) : Response :=
  if s.recorder then ⟨200, .lines (metricLines s.market)⟩
  else ⟨404, .lines ["metrics recorder not installed"]⟩

/-! ### Routes -/

/-- The pages of the service. -/
inductive Route
  | health
  | readiness
  | metrics
  | status
  | depth (exchange pair segment : String)
  | simulate (exchange pair segment : String)

/-- The page that a path names.  Parts of a key may be empty, but not at the end of a path. -/
def Route.ofSegments : List String → Option Route
  | ["health"] => some .health
  | ["ready"] => some .readiness
  | ["metrics"] => some .metrics
  | ["api", "v1", "status"] => some .status
  | ["api", "v1", "depth", e, p, a] => if a = "" then none else some (.depth e p a)
  | ["api", "v1", "depth", e, p, a, "simulate"] => some (.simulate e p a)
  | _ => none

/-- The parts of a key in a path, if all of them are text. -/
def decodeParts (exchange pair segment : String) : Option (String × String × String) := do
  return (← decodeSegment exchange, ← decodeSegment pair, ← decodeSegment segment)

/-- The answer to a read. -/
def Route.answer (s : Service) (query : List (String × String)) : Route → Answer
  | .health => return Http.health
  | .readiness => return Http.readiness s
  | .metrics => return metricsPage s
  | .status => return statusPage s
  | .depth e p a =>
    match decodeParts e p a with
    | some (e, p, a) => Http.depth s e p a
    | none => return badRequest
  | .simulate e p a =>
    match decodeParts e p a, orderOf? query with
    | some (e, p, a), some (amount, side) => Http.simulate s e p a amount side
    | _, _ => return badRequest

/-- Answers a request. -/
def Service.respond (s : Service) (method uri : String) : Answer :=
  let target := Target.parse uri
  if method = "OPTIONS" then return ⟨200, .empty⟩
  else
    match Route.ofSegments target.segments with
    | none => return notFound
    | some route =>
      if method = "GET" then route.answer s target.query
      else if method = "HEAD" then return { ← route.answer s target.query with body := .empty }
      else return methodNotAllowed

end Http

end MarketDepth
