import SignOn.Jose.Algorithm

/-! # What a request leaves behind, and the application it is about -/

namespace SignOn

/-- How a dispatch ended. -/
inductive DispatchResult where
  | error
  | forward
  | redirect
deriving DecidableEq, Repr

def DispatchResult.name : DispatchResult → String
  | .error => "error"
  | .forward => "forward"
  | .redirect => "redirect"

/-- What is counted. -/
inductive Count where
  | dispatch (protocol : String) (result : DispatchResult)
  | issued (protocol : String) (algorithm : Jose.SignatureAlgorithm)
  | operation (op : Jose.Operation) (succeeded : Bool)
deriving DecidableEq, Repr

namespace Count

/-- The name of the counter that goes up. -/
def counter : Count → String
  | .dispatch _ _ => "dispatch_total"
  | .issued _ _ => "tokens_issued_total"
  | .operation _ _ => "jose_operations_total"

/-- The labels under which it goes up, in the order of their names. -/
def labels : Count → List (String × String)
  | .dispatch protocol result => [("outcome", result.name), ("protocol", protocol)]
  | .issued protocol algorithm => [("algorithm", algorithm.name), ("protocol", protocol)]
  | .operation op succeeded =>
    [("operation", op.name), ("status", if succeeded then "success" else "failure")]

end Count

/-- The id of the application that is being served, if any, and what was counted so far. -/
structure Context where
  appId : Option String
  counts : List Count
deriving DecidableEq, Repr

namespace Context

/-- Outside every request. -/
def idle : Context := ⟨none, []⟩

end Context

/-- A part of a request. -/
abbrev Activity := StateM Context

namespace Activity

variable {α : Type}

def count (c : Count) : Activity Unit := modify fun s ↦ { s with counts := s.counts ++ [c] }

/-- The application that is being served. -/
def currentAppId : Activity (Option String) := do return (← get).appId

/-- Serves an application, and afterwards again the one that was served before. -/
def withApp (id : String) (body : Activity α) : Activity α := do
  let before ← currentAppId
  modify fun s ↦ { s with appId := some id }
  let a ← body
  modify fun s ↦ { s with appId := before }
  return a

/-- Counts how an operation on keys ended. -/
def observe (op : Jose.Operation) (result : Except Jose.Error α) :
    Activity (Except Jose.Error α) := do
  count (.operation op result.isOk)
  return result

end Activity

end SignOn
