/-
MarketDepth/Cli/Args.lean

The command line.

The program has three commands: to serve, which it also does without a
command, to replay a feed, and to check the settings.  Options may stand before
or after the command, short ones may be joined, and after two hyphens nothing
is an option.  No option may come twice.  Anything else is bad usage.
-/
import MarketDepth.Settings

namespace MarketDepth.Cli

/-- What the program is asked to do. -/
inductive Command
  | serve (httpPort : Option Nat) (replay : Option String)
  | replay (file : String) (strict : Bool)
  | checkSettings
  | version
  | help
deriving DecidableEq, Repr

/-- Which options are known: those of the program itself or those of a command. -/
inductive Scope
  | program
  | serve
  | replay
  | checkSettings
deriving DecidableEq, Repr

/-- What was read so far. -/
structure Scan where
  scope : Scope := .program
  verbose : Bool := false
  json : Bool := false
  httpPort : Option Nat := none
  replayPath : Option String := none
  file : Option String := none
  strict : Bool := false

/-- What an option does when it is met. -/
inductive Effect
  /-- It is on from now on. -/
  | switch (s : Scan)
  /-- It takes a value. -/
  | value (set : String → Option Scan)
  /-- It answers the command line at once. -/
  | answer (c : Command)

namespace Scan

/-- Turns a switch on, unless it is on already. -/
def turnOn (on : Bool) (s : Scan) : Option Effect := if on then none else some (.switch s)

def setPort (s : Scan) (v : String) : Option Scan :=
  match s.httpPort, SettingValue.readNat SettingValue.portLimit v with
  | none, .ok n => some { s with httpPort := some n }
  | _, _ => none

def setReplayPath (s : Scan) (v : String) : Option Scan :=
  if s.replayPath.isSome ∨ v = "" then none else some { s with replayPath := some v }

/-- The option with a long name. -/
def long (s : Scan) (name : String) : Option Effect :=
  if name = "verbose" then turnOn s.verbose { s with verbose := true }
  else if name = "json" then turnOn s.json { s with json := true }
  else if name = "help" then some (.answer .help)
  else
    match s.scope with
    | .program => if name = "version" then some (.answer .version) else none
    | .serve =>
      if name = "port" then some (.value s.setPort)
      else if name = "replay" then some (.value s.setReplayPath)
      else none
    | .replay => if name = "strict" then turnOn s.strict { s with strict := true } else none
    | .checkSettings => none

/-- The long name of a short option. -/
def short (s : Scan) (c : Char) : Option Effect :=
  if c = 'v' then s.long "verbose"
  else if c = 'h' then s.long "help"
  else if c = 'V' then s.long "version"
  else if c = 'p' then s.long "port"
  else none

/-- An argument that is no option: the command's name, or the file to replay. -/
def operand (s : Scan) (arg : String) : Option Scan :=
  match s.scope with
  | .program =>
    if arg = "serve" then some { scope := .serve }
    else if arg = "replay" then some { scope := .replay }
    else if arg = "check-config" then some { scope := .checkSettings }
    else none
  | .replay => if s.file.isSome ∨ arg = "" then none else some { s with file := some arg }
  | _ => none

/-- The command that was read. -/
def finish (s : Scan) : Option Command :=
  match s.scope with
  | .program => some (.serve none none)
  | .serve => some (.serve s.httpPort s.replayPath)
  | .replay => s.file.map fun file => .replay file s.strict
  | .checkSettings => some .checkSettings

/-- Arguments after two hyphens: only a command's operands may stand there. -/
def operands (s : Scan) : List String → Option Command
  | [] => s.finish
  | arg :: rest =>
    if s.scope = .program then none else (s.operand arg).bind fun s => operands s rest

/-- A step through joined short options: the scan after them, or a value that
is still to come, or an answer. -/
def cluster (s : Scan) : List Char → Option Effect
  | [] => some (.switch s)
  | c :: rest =>
    match s.short c with
    | none => none
    | some (.answer a) => some (.answer a)
    | some (.switch s) => cluster s rest
    | some (.value set) =>
      match rest with
      | [] => some (.value set)
      | '=' :: v => (set (String.ofList v)).map .switch
      | v => (set (String.ofList v)).map .switch

/-- What one argument does; a long option may have its value behind an equals sign. -/
def option (s : Scan) (arg : List Char) : Option Effect :=
  match arg with
  | '-' :: '-' :: name =>
    match name.span (· != '=') with
    | (name, []) => s.long (String.ofList name)
    | (name, _ :: v) =>
      match s.long (String.ofList name) with
      | some (.value set) => (set (String.ofList v)).map .switch
      | _ => none
  | '-' :: cs => s.cluster cs
  | _ => none

/-- An argument that begins with a hyphen is an option, unless it is a lone hyphen. -/
def isOption (arg : String) : Bool :=
  match arg.toList with
  | '-' :: _ :: _ => true
  | _ => false

/-- Help on the program or on one of its commands. -/
def helpOn : List String → Option Command
  | [] => some .help
  | [name] =>
    if ["serve", "replay", "check-config", "help"].contains name then some .help else none
  | _ => none

/-- Reads arguments in turn. -/
def read (s : Scan) : List String → Option Command
  | [] => s.finish
  | arg :: rest =>
    if arg = "--" then s.operands rest
    else if s.scope = .program ∧ arg = "help" then helpOn rest
    else if isOption arg then
      match s.option arg.toList with
      | none => none
      | some (.answer c) => some c
      | some (.switch s) => read s rest
      | some (.value set) =>
        match rest with
        | [] => none
        | v :: rest => if isOption v then none else (set v).bind fun s => read s rest
    else (s.operand arg).bind fun s => read s rest

end Scan

/-- The command that the arguments spell, if they spell one. -/
def parseArgs (args : List String) : Option Command := Scan.read {} args

end MarketDepth.Cli
