/-
MarketDepth/Cli/Report.lean

What the commands print.
-/
import MarketDepth.ProgramError

namespace MarketDepth.Cli

def heavyRule : String := String.ofList (List.replicate 70 '=')
def lightRule : String := String.ofList (List.replicate 70 '-')

/-- Fills a text up with blanks to a width. -/
def padRight (width : Nat) (s : String) : String :=
  s ++ String.ofList (List.replicate (width - s.length) ' ')

def titled (title : String) : List String := [heavyRule, title, heavyRule]

/-! ### Settings -/

def settingsSummary (s : Settings) : List String := [
  lightRule,
  "Configuration Summary:",
  "  Buffer Limit: " ++ toString s.holdLimit ++ " updates",
  "  Pool Retention: " ++ toString s.retention ++ "ms",
  "  Checksum Levels: " ++ toString s.checksumDepth,
  "  Verify Books: " ++ (if s.verify then "true" else "false"),
  "  Sequencing: " ++ (if s.consecutive then "Strict" else "Unsequenced"),
  "  Replay: " ++ s.replayPath.getD "Disabled",
  "  Port: " ++ toString s.httpPort] ++ titled "CONFIGURATION CHECK PASSED"

/-! ### Replays -/

def summaryLines (s : Feed.Summary) : List String := [
  s!"  Lines: {s.lines}  Applied: {s.applied}  Buffered: {s.held}  Discarded: {s.discarded}",
  s!"  Synced: {s.synced}  Resyncs: {s.desyncs}  Rejected: {s.rejected}"]

def overviewLine (s : Overview) : String :=
  "  " ++ padRight 32 s.key.text ++ " " ++ padRight 10 s.phase.name ++
    " id=" ++ padRight 10 (toString s.lastId) ++
    " bids=" ++ padRight 5 (toString s.bidLevels) ++
    " asks=" ++ padRight 5 (toString s.askLevels)

def priceText (p : Option Decimal) : String := (p.map Decimal.toText).getD "-"

/-- A book's overview, and its best prices if it may be read. -/
def bookLines (m : Market) (s : Overview) : List String :=
  match m.view s.key with
  | .ok v => [overviewLine s,
      "    best bid: " ++ priceText v.bestBid ++ "  best ask: " ++ priceText v.bestAsk]
  | .error _ => [overviewLine s]

def poolLine (p : Pool) : String :=
  "  Pool: allocated=" ++ toString p.allocated ++ " reused=" ++ toString p.reused ++
    " purged=" ++ toString p.purged ++ " resident=" ++ toString p.spareCount

/-- The report on a replay; books stand in the order of their keys' texts. -/
def replayReport (file : String) (m : Market) (s : Feed.Summary) : List String :=
  titled ("REPLAY: " ++ file) ++ summaryLines s ++ [lightRule] ++
    (m.overviews.mergeSort fun a b => a.key.text ≤ b.key.text).flatMap (bookLines m) ++
    [lightRule, poolLine m.pool, heavyRule]

/-! ### Errors -/

/-- Each line of a text after four blanks. -/
def indent (s : String) : String :=
  "\n".intercalate ((s.splitOn "\n").map ("    " ++ ·))

/-- An error, and the one behind it if there is one. -/
def errorReport (message : String) (source : Option String) : List String :=
  ("Error: " ++ message) ::
    match source with
    | some cause => ["", "Caused by:", indent cause]
    | none => []

end MarketDepth.Cli
