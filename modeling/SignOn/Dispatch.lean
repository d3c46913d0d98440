import SignOn.Activity
import SignOn.App
import SignOn.Error
import SignOn.Protocol

/-! # Where the request for an application goes -/

namespace SignOn

open Json Text

inductive Decision where
  | forward (path : String)
  | redirect (url : String)
deriving DecidableEq, Repr

namespace Decision

def result : Decision → DispatchResult
  | .forward _ => .forward
  | .redirect _ => .redirect

/-- The members that tell the decision. -/
def members : Decision → List (String × Value)
  | .forward path => [("type", .string "forward"), ("path", .string path)]
  | .redirect url => [("type", .string "redirect"), ("url", .string url)]

/-- Decides about an application that uses a protocol. -/
def ofApp (a : App) (p : Protocol) : Except DispatchError Decision :=
  match p.endpoint? with
  | some start => .ok (.forward (start ++ "/" ++ a.id))
  | none =>
    if p.redirects then
      match nonBlank? a.loginUrl with
      | some url => .ok (.redirect url)
      | none => .error (.missingLoginUrl a.id p.name)
    else .error (.unsupportedProtocol a.id p.name)

end Decision

/-- An application, its protocol, and where its requests go. -/
structure Route where
  app : App
  protocol : Protocol
  decision : Decision
deriving DecidableEq, Repr

namespace Dispatch

/-- Routes the request for an application, and counts how that ends. -/
def route (apps : AppLookup) (appId : String) : Activity (Except DispatchError Route) := do
  match apps appId with
  | .error reason =>
    Activity.count (.dispatch "unknown" .error)
    return .error (.repository reason)
  | .ok none =>
    Activity.count (.dispatch "unknown" .error)
    return .error (.appNotFound appId)
  | .ok (some app) =>
    let protocol := Protocol.parse app.protocol
    match Decision.ofApp app protocol with
    | .error e =>
      Activity.count (.dispatch protocol.label .error)
      return .error e
    | .ok decision =>
      Activity.count (.dispatch protocol.label decision.result)
      return .ok ⟨app, protocol, decision⟩

def dispatch (apps : AppLookup) (appId : String) : Activity (Except DispatchError Decision) := do
  return (← route apps appId).map Route.decision

/-- Routes the request and has it handled while the application counts as being served. -/
def serve {α : Type} (apps : AppLookup) (appId : String)
    (handler : Route → Activity (Except AuthzError α)) : Activity (Except AuthzError α) :=
  Activity.withApp appId do
    match ← route apps appId with
    | .ok r => handler r
    | .error e => return .error (.dispatch e)

end Dispatch

end SignOn
