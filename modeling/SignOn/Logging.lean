import SignOn.Logging.Filter

/-! # What is logged, and in which form -/

namespace SignOn

open Text

inductive LogFormat where
  /-- One JSON object for each event. -/
  | json
  /-- Lines for people to read. -/
  | text
deriving DecidableEq, Repr

namespace LogFormat

def name : LogFormat → String
  | .json => "Json"
  | .text => "Text"

/-- How the forms may be spelled, in lower case. -/
def spellings : List (String × LogFormat) :=
  [("json", .json), ("text", .text), ("pretty", .text), ("plain", .text)]

/-- Reads a format, whatever its case and the blanks around it; the error is the text in lower
case. -/
def parse (s : String) : Except String LogFormat :=
  let folded := lower (trim s)
  match spellings.lookup folded with
  | some f => .ok f
  | none => .error folded

def errorMessage (folded : String) : String := "invalid log format: " ++ folded

end LogFormat

/-- How a service logs. -/
structure Logging where
  serviceName : String
  level : String
  format : LogFormat
deriving DecidableEq, Repr

namespace Logging

/-- What holds unless something else is set. -/
def standard : Logging := ⟨"rust-service", "info", .json⟩

/-- A filter from the environment is used if it is one; else the level has to be one. -/
def checkFilter (x : Logging) (environment : Option String) : Except LogFilter.Failure Unit :=
  match environment.map LogFilter.check with
  | some (.ok ()) => .ok ()
  | some (.error .withinCharacter) => .error .withinCharacter
  | _ => LogFilter.check x.level

def filterMessage (x : Logging) (e : FilterError) : String :=
  "invalid log filter '" ++ x.level ++ "': " ++ e.message

end Logging

end SignOn
