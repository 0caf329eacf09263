/-
MarketDepth/Settings.lean

Settings, and reading them from named values such as the environment.

Names count in any mixture of cases and unknown ones are passed over.  Values
are read strictly, without blanks around them.  The first value that cannot be
read is reported; a name that comes again is reported without reading its
second value.
-/
import MarketDepth.Market
import MarketDepth.Text.Case.Lower
import MarketDepth.Text.Digit

namespace MarketDepth

structure Settings where
  /-- How many messages a book may hold before its first snapshot. -/
  holdLimit : Nat := Channel.defaultHoldLimit
  /-- Milliseconds for which a free node stays usable. -/
  retention : Nat := Pool.defaultRetention
  /-- Books check snapshots and checksums. -/
  verify : Bool := false
  checksumDepth : Nat := Checksum.defaultDepth
  /-- Each message must have the number after the last one. -/
  consecutive : Bool := true
  /-- A feed to replay before serving. -/
  replayPath : Option String := none
  httpPort : Nat := 8080
  logLevel : String := "info"
  verbose : Bool := false
deriving DecidableEq, Repr

/-- Why a value is not of its type. -/
inductive ValueFault
  | invalidDigit
  | emptyNumber
  | tooLarge
  | notBoolean
deriving DecidableEq, Repr

def ValueFault.message : ValueFault → String
  | invalidDigit => "invalid digit found in string"
  | emptyNumber => "cannot parse integer from empty string"
  | tooLarge => "number too large to fit in target type"
  | notBoolean => "provided string was not \x60true\x60 or \x60false\x60"

inductive SettingsError
  /-- The value of a name cannot be read. -/
  | badValue (fault : ValueFault) (name value : String)
  /-- A setting is given twice. -/
  | repeated (setting : String)
deriving DecidableEq

def SettingsError.message : SettingsError → String
  | badValue fault name value =>
    fault.message ++ " while parsing value '" ++ value ++ "' provided by " ++ name
  | repeated setting => "duplicate field \x60" ++ setting ++ "\x60"

/-! ### Values -/

namespace SettingValue

/-- Digits from left to right, up to the first fault. -/
def readDigits (limit acc : Nat) : List Char → Except ValueFault Nat
  | [] => .ok acc
  | c :: rest =>
    match Text.digit? c with
    | none => .error .invalidDigit
    | some d =>
      let n := acc * 10 + d
      if n ≤ limit then readDigits limit n rest else .error .tooLarge

/-- A number up to `limit`: digits, perhaps after a plus sign. -/
def readNat (limit : Nat) (value : String) : Except ValueFault Nat :=
  match value.toList with
  | [] => .error .emptyNumber
  | ['+'] => .error .invalidDigit
  | '+' :: rest => readDigits limit 0 rest
  | cs => readDigits limit 0 cs

def readBool (value : String) : Except ValueFault Bool :=
  if value = "true" then .ok true
  else if value = "false" then .ok false
  else .error .notBoolean

/-- Counts have 64 bits and ports 16. -/
def countLimit : Nat := twoPow 64 - 1
def portLimit : Nat := twoPow 16 - 1

end SettingValue

/-! ### Settings -/

namespace Settings

/-- How a setting takes a value. -/
abbrev Setter := Settings → String → Except ValueFault Settings

open SettingValue in
/-- The setters by the names of their settings in lower case. -/
def setters : List (String × Setter) := [
  ("depth_buffer_limit", fun s v => do return { s with holdLimit := ← readNat countLimit v }),
  ("pool_retention_ms", fun s v => do return { s with retention := ← readNat countLimit v }),
  ("verify_orderbook", fun s v => do return { s with verify := ← readBool v }),
  ("checksum_levels", fun s v => do return { s with checksumDepth := ← readNat countLimit v }),
  ("strict_sequencing", fun s v => do return { s with consecutive := ← readBool v }),
  ("replay_path", fun s v => .ok { s with replayPath := some v }),
  ("port", fun s v => do return { s with httpPort := ← readNat portLimit v }),
  ("rust_log", fun s v => .ok { s with logLevel := v }),
  ("verbose", fun s v => do return { s with verbose := ← readBool v })]

/-- Reads named values in turn; `given` are the settings met so far. -/
def readVars (s : Settings) (given : List String) :
    List (String × String) → Except SettingsError Settings
  | [] => .ok s
  | (name, value) :: rest =>
    let setting := Text.toLower name
    match setters.lookup setting with
    | none => readVars s given rest
    | some set =>
      if given.contains setting then .error (.repeated setting)
      else
        match set s value with
        | .ok s => readVars s (setting :: given) rest
        | .error fault => .error (.badValue fault name value)

/-- The settings given by named values, the others by default. -/
def ofVars (vars : List (String × String)) : Except SettingsError Settings := readVars {} [] vars

/-- What makes the settings unusable, if anything does. -/
def invalid? (s : Settings) : Option String :=
  if s.holdLimit = 0 then some "DEPTH_BUFFER_LIMIT must be at least 1"
  else if s.retention = 0 then some "POOL_RETENTION_MS must be at least 1"
  else if s.checksumDepth = 0 then some "CHECKSUM_LEVELS must be at least 1"
  else none

/-- The options of a book that is opened by a message. -/
def options (s : Settings) : Options where
  verify := s.verify
  numbering := if s.consecutive then .strict else .loose
  addressing := .price
  checksumDepth := s.checksumDepth

/-- A market without books. -/
def newMarket (s : Settings) : Market := .empty s.options s.holdLimit (.empty s.retention)

end Settings

end MarketDepth
