import Mathlib.Data.List.OfFn
import SignOn.Proofs.Authorizer

/-!
# Programs

A client makes one call after another, and may decide about each of them when it has seen what came
of those before. The handler of a request is such a program itself, and so is an adapter; both run
while the application counts as being served. What a program answers does not depend on what was
counted before, and of the application that is served around it only on the innermost one. What is
counted can be read off the calls that were made.
-/

namespace SignOn

open Jose Json Outcome Text

/-! ## Calls -/

/-- What a client can ask for at once. -/
inductive Call : Type → Type 1 where
  | encrypt (s : Service) (r : Entropy) (plaintext : Bytes) (kid : Option String)
    (options : EncryptOptions) : Call (Except Jose.Error EncryptedToken)
  | decrypt (s : Service) (token : String) (kid : Option String) : Call (Except Jose.Error Bytes)
  | sign (s : Service) (r : Entropy) (claims : Value) (kid : Option String)
    (algorithm : Option SignatureAlgorithm) : Call (Except Jose.Error SignedToken)
  | verify {β : Type} (s : Service) (d : Decoder β) (token : String) (kid : Option String) :
    Call (Except Jose.Error β)
  | route (apps : AppLookup) (id : String) : Call (Except DispatchError Route)
  | dispatch (apps : AppLookup) (id : String) : Call (Except DispatchError Decision)
  | issue (x : TokenIssuer) (p : Principal) (a : App) : Call (Except IssuanceError IssuedToken)
  | deliver (x : TokenIssuer) (p : Principal) (a : App) : Call (Except IssuanceError Delivery)
  | encryptText (x : TokenIssuer) (data : String) (kid : Option String)
    (algorithm : Option KeyManagement) : Call (Except IssuanceError String)
  | currentAppId : Call (Option String)

/-- A part of a call that is of interest to operators, and how it ended. -/
inductive Event where
  | operation (op : Operation) (succeeded : Bool)
  | route (found : Except String (Option App)) (result : Except DispatchError Route)
  | issue (result : Except IssuanceError IssuedToken)
deriving DecidableEq

/-- How routing ended. -/
def DispatchResult.ofRouted : Except DispatchError Route → DispatchResult
  | .ok r => r.decision.result
  | .error _ => .error

namespace Event

/-- What operators call the protocol of a request, and its end. A request for no application has no
protocol. -/
def dispatched (found : Except String (Option App)) (result : Except DispatchError Route) :
    String × DispatchResult :=
  match found with
  | .error _ | .ok none => ("unknown", .error)
  | .ok (some a) => ((Protocol.parse a.protocol).label, .ofRouted result)

/-- What is counted of an event. A token that was not issued is not counted. -/
def count? : Event → Option Count
  | .operation op succeeded => some (.operation op succeeded)
  | .route found result =>
    let (label, result) := dispatched found result
    some (.dispatch label result)
  | .issue (.ok i) => some (.issued "JWT" i.algorithm)
  | .issue (.error _) => none

end Event

/-- The context after some events. -/
def Context.after (c : Context) (events : List Event) : Context :=
  { c with counts := c.counts ++ events.filterMap Event.count? }

namespace Context

@[simp] theorem after_nil (c : Context) : c.after [] = c := by simp [after]

/-- A token that is not issued is not counted. -/
@[simp] theorem after_failed (c : Context) (e : IssuanceError) :
    c.after [.issue (.error e)] = c := by
  show { c with counts := c.counts ++ [] } = c
  rw [List.append_nil]

@[simp] theorem after_after (c : Context) (events more : List Event) :
    (c.after events).after more = c.after (events ++ more) := by simp [after]

@[simp] theorem appId_after (c : Context) (events : List Event) :
    (c.after events).appId = c.appId := rfl

/-- What happens while an application is served is counted as if it were not. -/
theorem served_after (c : Context) (id : Option String) (events more : List Event) :
    { (after { c with appId := id } events).after more with appId := c.appId } =
      c.after (events ++ more) := by simp [after]

end Context

namespace TokenIssuer

variable (x : TokenIssuer) (p : Principal) (a : App)

/-- What is delivered, as far as it does not depend on what was counted before. -/
def delivered : Except IssuanceError Delivery :=
  match nonBlank? a.redirectUri with
  | none => .error (.missingRedirectUri a.id)
  | some action => (fun i ↦ ⟨action, .post, [("token", i.token)]⟩) <$> x.issued p a

/-- A text that is encrypted on behalf of an application, if one is served. -/
def encryptedFor (served : Option String) (data : String) (kid : Option String)
    (algorithm : Option KeyManagement) : Except IssuanceError String :=
  match x.service.encryptWith x.moment.entropy (utf8 data) kid ⟨algorithm, none, none⟩ with
  | .ok t => .ok t.compact
  | .error e => .error (.encryptionFailed (served.getD "") e)

/-- What happens when a token is put into an encrypted one. -/
def wrapEvents (signed : SignedToken) : List Event :=
  match a.tokenEncryption with
  | none => []
  | some w => [.operation .encrypt
      (x.service.encryptWith x.moment.entropy (utf8 signed.compact) w.keyId (options w)).isOk]

/-- What happens when claims are signed and the token is wrapped. -/
def signEvents (c : Claims) : List Event :=
  match x.service.sign x.moment.entropy c.toJson x.service.defaultSigningKeyId none with
  | .error _ => [.operation .sign false]
  | .ok signed => .operation .sign true :: x.wrapEvents a signed

/-- What happens when a token is issued. -/
def issueEvents : List Event :=
  (match (x.draft p a x.service.defaultSigningKeyId).build x.moment.now x.moment.entropy.uuid with
    | .error _ => []
    | .ok c => x.signEvents a c) ++ [.issue (x.issued p a)]

def deliverEvents : List Event :=
  match nonBlank? a.redirectUri with
  | none => []
  | some _ => x.issueEvents p a

end TokenIssuer

namespace Call

/-- Makes the call. -/
def perform : {β : Type} → Call β → Activity β
  | _, .encrypt s r plaintext kid options => Activity.encrypt s r plaintext kid options
  | _, .decrypt s token kid => Activity.decrypt s token kid
  | _, .sign s r claims kid algorithm => Activity.sign s r claims kid algorithm
  | _, .verify s d token kid => Activity.verify s d token kid
  | _, .route apps id => Dispatch.route apps id
  | _, .dispatch apps id => Dispatch.dispatch apps id
  | _, .issue x p a => x.issue p a
  | _, .deliver x p a => x.deliver p a
  | _, .encryptText x data kid algorithm => x.encrypt data kid algorithm
  | _, .currentAppId => Activity.currentAppId

/-- What is answered while an application is served, or none. -/
def answer (served : Option String) : {β : Type} → Call β → β
  | _, .encrypt s r plaintext kid options => s.encryptWith r plaintext kid options
  | _, .decrypt s token kid => s.decrypt token kid
  | _, .sign s r claims kid algorithm => s.sign r claims kid algorithm
  | _, .verify s d token kid => s.verify d token kid
  | _, .route apps id => Dispatch.routed apps id
  | _, .dispatch apps id => Route.decision <$> Dispatch.routed apps id
  | _, .issue x p a => x.issued p a
  | _, .deliver x p a => x.delivered p a
  | _, .encryptText x data kid algorithm => x.encryptedFor served data kid algorithm
  | _, .currentAppId => served

/-- What happens in the course of the call. -/
def events : {β : Type} → Call β → List Event
  | _, .encrypt s r plaintext kid options =>
    [.operation .encrypt (s.encryptWith r plaintext kid options).isOk]
  | _, .decrypt s token kid => [.operation .decrypt (s.decrypt token kid).isOk]
  | _, .sign s r claims kid algorithm => [.operation .sign (s.sign r claims kid algorithm).isOk]
  | _, .verify s d token kid => [.operation .verify (s.verify d token kid).isOk]
  | _, .route apps id | _, .dispatch apps id => [.route (apps id) (Dispatch.routed apps id)]
  | _, .issue x p a => x.issueEvents p a
  | _, .deliver x p a => x.deliverEvents p a
  | _, .encryptText x data kid algorithm =>
    [.operation .encrypt
      (x.service.encryptWith x.moment.entropy (utf8 data) kid ⟨algorithm, none, none⟩).isOk]
  | _, .currentAppId => []

end Call

/-! ## What a call does -/

/-- While an application is served, or none, the activity answers this, and this happens. -/
def Activity.Yields {α : Type} (m : Activity α) (served : Option String)
    (result : α × List Event) : Prop :=
  ∀ c : Context, c.appId = served → m.run c = (result.1, c.after result.2)

namespace Activity.Yields

variable {α β : Type} {m : Activity α} {next : α → Activity β} {served : Option String}
  {result : α × List Event} {rest : β × List Event}

theorem pure (a : α) (served : Option String) : Yields (Pure.pure a) served (a, []) := fun c _ ↦ by
  rw [Context.after_nil]
  rfl

/-- What an activity yields is what the next one works with. -/
theorem bind (hm : m.Yields served result) (hnext : (next result.1).Yields served rest) :
    (m >>= next).Yields served (rest.1, result.2 ++ rest.2) := by
  rintro c rfl
  rw [run_bind, hm c rfl, ← Context.after_after]
  exact hnext (c.after result.2) rfl

/-- Nothing happens when an answer is only put differently. -/
theorem finish (hm : m.Yields served result) (f : α → β)
    (hnext : ∀ a, next a = Pure.pure (f a)) :
    (m >>= next).Yields served (f result.1, result.2) := by
  intro c hc
  rw [run_bind, hm c hc, hnext]
  rfl

end Activity.Yields

theorem Activity.observe_yields {α : Type} (op : Operation) (result : Except Jose.Error α)
    (served : Option String) :
    (observe op result).Yields served (result, [.operation op result.isOk]) := fun _ _ ↦ rfl

theorem Dispatch.route_yields (apps : AppLookup) (id : String) (served : Option String) :
    (route apps id).Yields served
      (routed apps id, [.route (apps id) (routed apps id)]) := by
  intro c _
  rw [route, routed]
  cases apps id with
  | error reason => rfl
  | ok found =>
    cases found with
    | none => rfl
    | some app =>
      dsimp only
      cases Decision.ofApp app (.parse app.protocol) <;> rfl

namespace TokenIssuer

variable (x : TokenIssuer) (p : Principal) (a : App) (served : Option String)

theorem wrap_yields (signed : SignedToken) :
    (x.wrap a signed).Yields served (x.wrapped a signed, x.wrapEvents a signed) := by
  rw [wrap, wrapped, wrapEvents]
  cases a.tokenEncryption with
  | none => exact .pure _ _
  | some w =>
    intro c _
    simp only [Activity.encrypt, Activity.run_bind, Activity.run_observe]
    cases x.service.encryptWith x.moment.entropy (utf8 signed.compact) w.keyId (options w) <;> rfl

theorem issue_yields : (x.issue p a).Yields served (x.issued p a, x.issueEvents p a) := by
  intro c hc
  simp only [issue, issued, issueEvents]
  cases (x.draft p a x.service.defaultSigningKeyId).build x.moment.now x.moment.entropy.uuid with
  | error e =>
    rw [error_bind, List.nil_append, Context.after_failed]
    rfl
  | ok claims =>
    simp only [ok_bind, signEvents, Activity.sign, Activity.run_bind, Activity.run_observe]
    cases x.service.sign x.moment.entropy claims.toJson x.service.defaultSigningKeyId none with
    | error e =>
      rw [← Context.after_after, Context.after_failed]
      rfl
    | ok signed =>
      have hevents (last : Event) :
          c.after (.operation .sign true :: x.wrapEvents a signed ++ [last]) =
            ((c.after [.operation .sign true]).after (x.wrapEvents a signed)).after [last] := by
        simp
      have hwrap := x.wrap_yields a served signed (c.after [.operation .sign true]) hc
      show (x.wrap a signed >>= _).run (c.after [.operation .sign true]) = _
      rw [Activity.run_bind, hwrap, hevents]
      dsimp only
      cases x.wrapped a signed with
      | error e =>
        rw [error_bind, Context.after_failed]
        rfl
      | ok delivered => rfl

theorem deliver_yields : (x.deliver p a).Yields served (x.delivered p a, x.deliverEvents p a) := by
  rw [deliver, delivered, deliverEvents]
  cases nonBlank? a.redirectUri with
  | none => exact .pure _ _
  | some action =>
    refine (x.issue_yields p a served).finish (fun issued ↦ _ <$> issued) fun issued ↦ ?_
    cases issued <;> rfl

theorem encrypt_yields (data : String) (kid : Option String) (algorithm : Option KeyManagement) :
    (x.encrypt data kid algorithm).Yields served
      (x.encryptedFor served data kid algorithm,
        (Call.encryptText x data kid algorithm).events) := by
  rintro c rfl
  rw [encrypt, encryptedFor, Call.events]
  simp only [Activity.encrypt, Activity.run_bind, Activity.run_observe]
  cases x.service.encryptWith x.moment.entropy (utf8 data) kid ⟨algorithm, none, none⟩ <;> rfl

end TokenIssuer

/-- A call answers what it answers for the application that is served, and leaves behind what
happened in its course. -/
theorem Call.perform_yields {β : Type} (k : Call β) (served : Option String) :
    k.perform.Yields served (k.answer served, k.events) := by
  cases k with
  | encrypt | decrypt | sign | verify => exact Activity.observe_yields _ _ served
  | route apps id => exact Dispatch.route_yields apps id served
  | dispatch apps id =>
    refine (Dispatch.route_yields apps id served).finish (Functor.map Route.decision) fun r ↦ ?_
    cases r <;> rfl
  | issue x p a => exact x.issue_yields p a served
  | deliver x p a => exact x.deliver_yields p a served
  | encryptText x data kid algorithm => exact x.encrypt_yields served data kid algorithm
  | currentAppId =>
    rintro c rfl
    rw [events, Context.after_nil]
    rfl

/-! ## Programs -/

/-- What a client does: a call, a request that a handler is written for, or a user to be authorized
by adapters, which are added one after the other; and then whatever it decides on. -/
inductive Program : Type → Type 1 where
  | done {α : Type} (a : α) : Program α
  | call {α β : Type} (k : Call β) (next : β → Program α) : Program α
  | serve {α β : Type} (apps : AppLookup) (id : String)
    (handler : Route → Program (Except AuthzError β)) (next : Except AuthzError β → Program α) :
    Program α
  | authorize {α : Type} {n : Nat} (protocol : Fin n → Protocol)
    (delivers : Fin n → Principal → App → Program (Except IssuanceError Delivery))
    (apps : AppLookup) (id : String) (user : Principal)
    (next : Except AuthzError Outcome → Program α) : Program α

namespace Authorizer

variable {n : Nat} (protocol : Fin n → Protocol)

/-- An authorizer with adapters that were added one after the other. -/
def ofAdapters (apps : AppLookup)
    (delivers : Fin n → Principal → App → Activity (Except IssuanceError Delivery)) :
    Authorizer :=
  (ofApps apps).withAdapters (List.ofFn fun i ↦ ⟨protocol i, delivers i⟩)

/-- The last adapter for a protocol. -/
def last? (p : Protocol) : Option (Fin n) :=
  (List.finRange n).reverse.find? fun i ↦ protocol i = p

/-- What comes of a request that is handed to the last adapter for its protocol, if this is what
comes of the adapters, and what happens meanwhile. -/
def handed (deliver : Fin n → Principal → App → Except IssuanceError Delivery × List Event)
    (user : Principal) (r : Route) : Except AuthzError Outcome × List Event :=
  match last? protocol r.protocol with
  | none => (.ok (.route r.decision), [])
  | some i =>
    let delivered := deliver i user r.app
    (told delivered.1, delivered.2)

end Authorizer

/-- What comes of a request, and what happens meanwhile, if this is what comes of handling it. -/
def Dispatch.handled {α : Type} (routed : Except DispatchError Route)
    (handle : Route → Except AuthzError α × List Event) : Except AuthzError α × List Event :=
  match routed with
  | .error e => (.error (.dispatch e), [])
  | .ok r => handle r

namespace Program

/-- Runs a program. -/
def run : {α : Type} → Program α → Activity α
  | _, .done a => return a
  | _, .call k next => do
    let b ← k.perform
    (next b).run
  | _, .serve apps id handler next => do
    let b ← Dispatch.serve apps id fun r ↦ (handler r).run
    (next b).run
  | _, .authorize protocol delivers apps id user next => do
    let x := Authorizer.ofAdapters protocol apps fun i user app ↦ (delivers i user app).run
    let b ← x.authorize id user
    (next b).run

/-- What a program answers while an application is served, or none, and what happens meanwhile. -/
def trace : {α : Type} → Program α → Option String → α × List Event
  | _, .done a, _ => (a, [])
  | _, .call k next, served =>
    let rest := (next (k.answer served)).trace served
    (rest.1, k.events ++ rest.2)
  | _, .serve apps id handler next, served =>
    let handled := Dispatch.handled (Dispatch.routed apps id) fun r ↦ (handler r).trace (some id)
    let rest := (next handled.1).trace served
    (rest.1, .route (apps id) (Dispatch.routed apps id) :: handled.2 ++ rest.2)
  | _, .authorize protocol delivers apps id user next, served =>
    let handled := Dispatch.handled (Dispatch.routed apps id)
      (Authorizer.handed protocol (fun i user app ↦ (delivers i user app).trace (some id)) user)
    let rest := (next handled.1).trace served
    (rest.1, .route (apps id) (Dispatch.routed apps id) :: handled.2 ++ rest.2)

end Program

/-! ## What a program does -/

theorem Activity.run_withApp {α : Type} (id : String) (body : Activity α) (c : Context) :
    (withApp id body).run c =
      let served := body.run { c with appId := some id }
      (served.1, { served.2 with appId := c.appId }) := rfl

/-- A request is routed first. What comes of handling it is what comes of it. -/
theorem Dispatch.serve_yields {α : Type} {apps : AppLookup} {id : String}
    {handler : Route → Activity (Except AuthzError α)}
    {handle : Route → Except AuthzError α × List Event}
    (h : ∀ r, (handler r).Yields (some id) (handle r)) (served : Option String) :
    let handled := handled (routed apps id) handle
    (serve apps id handler).Yields served
      (handled.1, .route (apps id) (routed apps id) :: handled.2) := by
  rintro handled c rfl
  subst handled
  rw [serve, Activity.run_withApp, Activity.run_bind,
    route_yields apps id (some id) { c with appId := some id } rfl]
  cases routed apps id with
  | error e => rfl
  | ok r =>
    dsimp only [Dispatch.handled]
    rw [h r _ rfl]
    exact Prod.ext rfl (c.served_after (some id) [.route (apps id) (.ok r)] (handle r).2)

namespace Authorizer

variable {n : Nat} (protocol : Fin n → Protocol) (apps : AppLookup)

/-- Of adapters that were added one after the other the last one for a protocol is asked. -/
theorem adapter?_ofAdapters
    (delivers : Fin n → Principal → App → Activity (Except IssuanceError Delivery)) (p : Protocol) :
    (ofAdapters protocol apps delivers).adapter? p =
      (last? protocol p).map fun i ↦ ⟨protocol i, delivers i⟩ := by
  rw [ofAdapters, adapter?_withAdapters, List.ofFn_eq_map, ← List.map_reverse, List.find?_map]
  rfl

theorem authorize_yields {id : String}
    {delivers : Fin n → Principal → App → Activity (Except IssuanceError Delivery)}
    {deliver : Fin n → Principal → App → Except IssuanceError Delivery × List Event}
    (h : ∀ i user app, (delivers i user app).Yields (some id) (deliver i user app))
    (user : Principal) (served : Option String) :
    let handled := Dispatch.handled (Dispatch.routed apps id) (handed protocol deliver user)
    ((ofAdapters protocol apps delivers).authorize id user).Yields served
      (handled.1, .route (apps id) (Dispatch.routed apps id) :: handled.2) := by
  have happs : (ofAdapters protocol apps delivers).apps = apps := apps_withAdapters ..
  rw [authorize, happs]
  refine Dispatch.serve_yields (fun r ↦ ?_) served
  rw [adapter?_ofAdapters, handed]
  cases last? protocol r.protocol with
  | none => exact .pure _ _
  | some i =>
    refine (h i user r.app).finish told fun delivered ↦ ?_
    cases delivered <;> rfl

end Authorizer

/-- A program answers what it answers while the same application is served, and leaves behind what
happened meanwhile. -/
theorem Program.run_yields {α : Type} (p : Program α) (served : Option String) :
    p.run.Yields served (p.trace served) := by
  induction p generalizing served with
  | done a => exact .pure a served
  | call k next ih => exact (k.perform_yields served).bind (ih _ served)
  | serve apps id handler next ihandler inext =>
    exact (Dispatch.serve_yields (fun r ↦ ihandler r (some id)) served).bind (inext _ served)
  | authorize protocol delivers apps id user next idelivers inext =>
    exact (Authorizer.authorize_yields protocol apps
      (fun i user app ↦ idelivers i user app (some id)) user served).bind (inext _ served)

end SignOn
