/-
MarketDepth/Feed/Replay.lean

Replaying a whole feed into a market.

A feed is a sequence of bytes in which line feeds end lines; a carriage return
in front of one belongs to it, and so does the missing line feed at the end of
the last line.  Blank lines are passed over but counted.  Each other line is a
message, which is decoded and passed to its book, and the outcome is tallied.

A lenient replay tallies bad lines and goes on; a strict one stops at the
first.  Either stops at a line that is no text.
-/
import MarketDepth.Feed.Line
import MarketDepth.Market
import MarketDepth.Text.Blank
import MarketDepth.Text.Utf8

namespace MarketDepth

/-! ### Errors -/

namespace Feed

inductive IoFault
  /-- A line is not in UTF-8. -/
  | invalidData
  /-- There is no such file. -/
  | notFound
deriving DecidableEq, Repr

def IoFault.message : IoFault → String
  | invalidData => "stream did not contain valid UTF-8"
  | notFound => "No such file or directory (os error 2)"

/-- What stops a replay. -/
inductive Stop
  /-- A bad line in a strict replay. -/
  | line (number : Nat) (e : LineError)
  | io (fault : IoFault)
deriving DecidableEq

/-! ### Lines -/

/-- Splits bytes after each line feed, which is dropped together with one
carriage return before it.  `line` holds the bytes of the line so far, last
byte first.  Nothing after the last line feed is no line. -/
def splitLines (line : List UInt8) : List UInt8 → List (List UInt8)
  | [] => if line.isEmpty then [] else [line.reverse]
  | b :: rest =>
    if b = 10 then
      let ended := match line with
        | 13 :: before => before
        | line => line
      ended.reverse :: splitLines [] rest
    else splitLines (b :: line) rest

/-! ### Replay -/

/-- How often each outcome came up. -/
structure Summary where
  /-- Lines that are not blank. -/
  lines : Nat := 0
  applied : Nat := 0
  held : Nat := 0
  discarded : Nat := 0
  synced : Nat := 0
  desyncs : Nat := 0
  /-- Lines that were no message, or that a book refused. -/
  rejected : Nat := 0
deriving DecidableEq, Repr

def Summary.countLine (s : Summary) : Summary := { s with lines := s.lines + 1 }

def Summary.countRejected (s : Summary) : Summary := { s with rejected := s.rejected + 1 }

def Summary.count (s : Summary) : Outcome → Summary
  | .applied => { s with applied := s.applied + 1 }
  | .held => { s with held := s.held + 1 }
  | .discarded => { s with discarded := s.discarded + 1 }
  | .synced .. => { s with synced := s.synced + 1 }
  | .desynced _ => { s with desyncs := s.desyncs + 1 }

/-- The market after a line, and what became of its message. -/
def receiveLine (m : Market) (line : String) (clock : Nat → Instant) :
    Market × Except LineError Outcome :=
  match decodeLine line with
  | .error e => (m, .error e)
  | .ok message =>
    let (m, outcome) := m.receive message clock
    (m, outcome.mapError .book)

/-- The market after a replay, and the summary or what stopped it. -/
abbrev Replayed := Market × Except Stop Summary

/-- Replays lines, the first of which has the number `number`.  `clock n` is
the clock while line `n` is processed. -/
def replayLines (strict : Bool) (clock : Nat → Nat → Instant) (m : Market) (s : Summary)
    (number : Nat) : List (List UInt8) → Replayed
  | [] => (m, .ok s)
  | bytes :: rest =>
    match Text.Utf8.decode? bytes with
    | none => (m, .error (.io .invalidData))
    | some line =>
      if Text.IsBlankText line then replayLines strict clock m s (number + 1) rest
      else
        match receiveLine m line (clock number) with
        | (m, .ok outcome) =>
          replayLines strict clock m (s.countLine.count outcome) (number + 1) rest
        | (m, .error e) =>
          if strict then (m, .error (.line number e))
          else replayLines strict clock m s.countLine.countRejected (number + 1) rest

/-- Replays a feed.  Lines are numbered from one. -/
def replay (strict : Bool) (clock : Nat → Nat → Instant) (m : Market) (bytes : List UInt8) :
    Replayed :=
  replayLines strict clock m {} 1 (splitLines [] bytes)

end Feed

end MarketDepth
