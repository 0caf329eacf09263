/-
MarketDepth/Main.lean

The program: it gathers the arguments, the environment and the files that a
command names, and prints what the command answers.

The service answers requests that come in on standard input, one on a line: a
method, a blank and a target.
-/
import MarketDepth.Cli.Run
import MarketDepth.Http.Service

open MarketDepth

namespace MarketDepth.Program

/-- The variables that settings are read from, in capitals or in small letters. -/
def environment : IO (List (String × String)) := do
  let names := (Settings.setters.map (·.1)).flatMap fun n => [n.map Char.toUpper, n]
  names.filterMapM fun n => do return (← IO.getEnv n).map ((n, ·))

/-- The bytes of a file, if it can be read. -/
def readFile? (name : String) : IO (Option (List UInt8)) := do
  try
    return some (← IO.FS.readBinFile name).toList
  catch _ => return none

/-- The file that a command reads. -/
def fileOf : Option Cli.Command → Option String
  | some (.replay file _) => some file
  | _ => none

def printBody : Http.Body → IO Unit
  | .json v => IO.println v.render
  | .lines ls => ls.forM IO.println
  | .empty => return

/-- Answers requests until the input ends. -/
partial def serve (service : Http.Service) (input : IO.FS.Stream) : IO Unit := do
  let line ← input.getLine
  if line.isEmpty then return
  match (line.trimAscii.toString.splitOn " ") with
  | [method, uri] =>
    match service.respond method uri with
    | .ok response =>
      IO.println (toString response.status)
      printBody response.body
    | .error e => IO.eprintln e.message
  | _ => IO.println "400"
  serve service input

/-- Loads the feed that is to be replayed first, and serves. -/
def runService (s : Settings) (clock : Nat → Nat → Instant) : IO Unit := do
  let empty := s.newMarket
  let market ← match s.replayPath with
    | none => pure empty
    | some path => do
      match ← readFile? path with
      | none => pure empty
      | some bytes => pure (Feed.replay false clock empty bytes).1
  serve ⟨market, true, true⟩ (← IO.getStdin)

end MarketDepth.Program

open MarketDepth.Program in
def main (args : List String) : IO UInt32 := do
  let now ← IO.monoMsNow
  let clock : Nat → Nat → Instant := fun _ _ => now
  let file ← match fileOf (Cli.parseArgs args) with
    | some name => readFile? name
    | none => pure none
  let world : Cli.World := ⟨← environment, fun _ => file, clock⟩
  match Cli.run world args with
  | .finished o =>
    o.stdout.forM IO.println
    o.stderr.forM IO.eprintln
    return o.exit.toUInt32
  | .serving s =>
    runService s clock
    return 0
