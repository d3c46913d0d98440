import SignOn.Issuance

/-! # Authorizing users for applications -/

namespace SignOn

open Json

/-- Delivers tokens to the applications that use one protocol. -/
structure Adapter where
  protocol : Protocol
  deliver : Principal → App → Activity (Except IssuanceError Delivery)

def TokenIssuer.adapter (x : TokenIssuer) : Adapter := ⟨.jwt, x.deliver⟩

/-- What comes of an authorization. -/
inductive Outcome where
  | deliver (d : Delivery)
  | route (d : Decision)
deriving DecidableEq, Repr

def Outcome.toJson : Outcome → Value
  | .deliver d => .object (("outcome", .string "deliver") :: d.members)
  | .route d => .object (("outcome", .string "route") :: d.members)

/-- Applications, and the adapters that serve them. -/
structure Authorizer where
  apps : AppLookup
  /-- The adapters, the latest first. -/
  adapters : List Adapter

namespace Authorizer

def ofApps (apps : AppLookup) : Authorizer := ⟨apps, []⟩

/-- Adds an adapter, instead of an earlier one for the same protocol. -/
def withAdapter (x : Authorizer) (a : Adapter) : Authorizer :=
  { x with adapters := a :: x.adapters.filter fun b ↦ b.protocol ≠ a.protocol }

def adapter? (x : Authorizer) (p : Protocol) : Option Adapter :=
  x.adapters.find? fun a ↦ a.protocol = p

def handles (x : Authorizer) (p : Protocol) : Bool := (x.adapter? p).isSome

/-- Delivers a token if there is an adapter for the application's protocol; else tells where the
request goes. -/
def authorize (x : Authorizer) (appId : String) (p : Principal) :
    Activity (Except AuthzError Outcome) :=
  Dispatch.serve x.apps appId fun r ↦ do
    match x.adapter? r.protocol with
    | none => return .ok (.route r.decision)
    | some a =>
      match ← a.deliver p r.app with
      | .ok d => return .ok (.deliver d)
      | .error e => return .error (.issuance e)

/-- A description that names the protocols with an adapter. -/
def describe (x : Authorizer) : String :=
  "Authorizer \x7b dispatcher: Dispatcher \x7b .. \x7d, adapters: " ++
    Text.bracket (x.adapters.map fun a ↦ Text.quote a.protocol.name) ++ " \x7d"

end Authorizer

end SignOn
