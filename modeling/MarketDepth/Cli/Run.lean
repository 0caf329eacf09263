/-
MarketDepth/Cli/Run.lean

Carrying out a command: from the arguments, the environment and the files that
can be read to what is printed and the exit code.
-/
import MarketDepth.Cli.Args
import MarketDepth.Cli.Report

namespace MarketDepth.Cli

/-- The world as a command sees it. -/
structure World where
  /-- The environment; of a name that comes again the last value counts. -/
  env : List (String × String)
  /-- The bytes of a file, if there is one. -/
  readFile : String → Option (List UInt8)
  /-- The time while each line of a feed is processed. -/
  clock : Nat → Nat → Instant

structure Output where
  exit : Nat
  stdout : List String
  stderr : List String

/-- What is left to do. -/
inductive Result
  | finished (o : Output)
  /-- The settings are fine and the service is to be run with them. -/
  | serving (s : Settings)

def succeed (stdout : List String) : Result := .finished ⟨0, stdout, []⟩

def fail (stdout : List String) (message : String) (source : Option String) : Result :=
  .finished ⟨1, stdout, errorReport message source⟩

def usage : List String := [
  "Usage: depthbook [OPTIONS] [COMMAND]",
  "Commands: serve, replay, check-config, help",
  "Options: -v --verbose, --json, -h --help, -V --version"]

def badUsage : Result := .finished ⟨2, [], usage⟩

def versionText : String := "depthbook 0.1.0"

/-! ### Settings -/

/-- Sets a variable among those that are sorted by name. -/
def setVar (name value : String) : List (String × String) → List (String × String)
  | [] => [(name, value)]
  | (n, v) :: rest =>
    if n = name then (name, value) :: rest
    else if n < name then (n, v) :: setVar name value rest
    else (name, value) :: (n, v) :: rest

/-- The environment in the order of names. -/
def World.vars (w : World) : List (String × String) :=
  w.env.foldl (fun vars p => setVar p.1 p.2 vars) []

def World.settings (w : World) : Except SettingsError Settings := Settings.ofVars w.vars

/-- Settings that can be worked with, or the sentence that says why there are none. -/
def World.usableSettings (w : World) : Except String Settings :=
  match w.settings with
  | .error e => .error e.message
  | .ok s =>
    match s.invalid? with
    | some reason => .error ("Configuration validation failed: " ++ reason)
    | none => .ok s

/-! ### Commands -/

def checkSettings (w : World) : Result :=
  let title := titled "DEPTHBOOK - CONFIGURATION CHECK"
  match w.settings with
  | .error e =>
    fail (title ++ ["Loading configuration... FAILED", "  Error: " ++ e.message])
      "Configuration load failed" none
  | .ok s =>
    let loaded := title ++ ["Loading configuration... OK"]
    match s.invalid? with
    | some reason =>
      fail (loaded ++ ["Validating configuration... FAILED", "  Error: " ++ reason])
        "Configuration validation failed" none
    | none => succeed (loaded ++ ["Validating configuration... OK"] ++ settingsSummary s)

/-- Replays a file into a market. -/
def World.replayFile (w : World) (strict : Bool) (m : Market) (file : String) : Feed.Replayed :=
  match w.readFile file with
  | some bytes => Feed.replay strict w.clock m bytes
  | none => (m, .error (.io .notFound))

def replay (w : World) (file : String) (strict : Bool) : Result :=
  match w.usableSettings with
  | .error reason => fail [] reason none
  | .ok s =>
    match w.replayFile strict s.newMarket file with
    | (m, .ok summary) => succeed (replayReport file m summary)
    | (_, .error stop) =>
      let e := ProgramError.feed stop
      fail [] e.message e.source?

/-- Options on the command line go before settings. -/
def serve (w : World) (port? : Option Nat) (feed? : Option String) : Result :=
  match w.usableSettings with
  | .error reason => fail [] reason none
  | .ok s =>
    .serving { s with
      httpPort := port?.getD s.httpPort
      replayPath := feed?.or s.replayPath }

def run (w : World) (args : List String) : Result :=
  match parseArgs args with
  | none => badUsage
  | some .version => succeed [versionText]
  | some .help => succeed usage
  | some .checkSettings => checkSettings w
  | some (.replay file strict) => replay w file strict
  | some (.serve port? feed?) => serve w port? feed?

end MarketDepth.Cli
