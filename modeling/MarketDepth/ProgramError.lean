/-
MarketDepth/ProgramError.lean

Everything that can make the program give up, with the sentence that says so
and, where the sentence passes on another error's, that error's own.
-/
import MarketDepth.Settings
import MarketDepth.Feed.Replay

namespace MarketDepth

inductive ProgramError
  /-- The settings cannot be read. -/
  | settings (e : SettingsError)
  /-- The settings make no sense. -/
  | unusable (reason : String)
  | book (e : BookError)
  /-- A replay was stopped. -/
  | feed (stop : Feed.Stop)
deriving DecidableEq

namespace ProgramError

def message : ProgramError → String
  | settings e => "configuration error: " ++ e.message
  | unusable reason => "invalid configuration: " ++ reason
  | book e => "depth error: " ++ e.message
  | feed (.line number e) => "feed error at line " ++ toString number ++ ": " ++ e.message
  | feed (.io fault) => "io error: " ++ fault.message

/-- The sentence of the error behind this one. -/
def source? : ProgramError → Option String
  | settings e => some e.message
  | unusable _ => none
  | book e => some e.message
  | feed (.line _ e) => some e.message
  | feed (.io fault) => some fault.message

end ProgramError

end MarketDepth
