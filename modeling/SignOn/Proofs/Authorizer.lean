import Mathlib.Data.List.Induction
import SignOn.Authorizer
import SignOn.Proofs.Dispatch
import SignOn.Proofs.Issuance

/-!
# Authorizing users

Dispatching comes first: a request that it refuses is counted, and reaches no adapter. Of the
adapters for one protocol the last one is asked; only an application whose protocol has none is told
where its request goes.
-/

namespace SignOn

open Outcome Text

/-- The context after something was counted. -/
def Context.counting (c : Context) (k : Count) : Context := { c with counts := c.counts ++ [k] }

namespace Dispatch

/-! ## Refused requests -/

/-- Why the request for an application goes nowhere, and the label under which that is counted. -/
inductive Refuses (apps : AppLookup) (id : String) : DispatchError → String → Prop
  | unavailable {reason : String} (h : apps id = .error reason) :
    Refuses apps id (.repository reason) "unknown"
  | missing (h : apps id = .ok none) : Refuses apps id (.appNotFound id) "unknown"
  | unsupported {a : App} {text : String} (h : apps id = .ok (some a))
    (hp : Protocol.parse a.protocol = .unsupported text) :
    Refuses apps id (.unsupportedProtocol a.id text) "unsupported"
  | noLoginUrl {a : App} {p : Protocol} (h : apps id = .ok (some a))
    (hp : Protocol.parse a.protocol = p) (hredirects : p.redirects = true)
    (hurl : ∀ url, a.loginUrl = some url → Blank url) :
    Refuses apps id (.missingLoginUrl a.id p.name) p.label

variable {apps : AppLookup} {id : String}

/-- A request that is let through is one for a record of which the protocol gives a decision. -/
theorem routed_eq_ok_iff {r : Route} :
    routed apps id = .ok r ↔ apps id = .ok (some r.app) ∧
      r.protocol = .parse r.app.protocol ∧ Decision.ofApp r.app r.protocol = .ok r.decision := by
  obtain ⟨app, protocol, decision⟩ := r
  rw [routed]
  dsimp only
  constructor
  · intro h
    split at h
    · cases h
    · cases h
    · next a ha =>
      obtain ⟨d, hd, h⟩ := bind_eq_ok_iff.1 h
      simp only [pure_eq, Except.ok.injEq, Route.mk.injEq] at h
      obtain ⟨rfl, rfl, rfl⟩ := h
      exact ⟨ha, rfl, hd⟩
  · rintro ⟨ha, hp, hd⟩
    rw [ha]
    dsimp only
    rw [← hp, hd]
    rfl

/-- Every request is refused for one of the reasons, or let through. -/
theorem refuses_or_routed (apps : AppLookup) (id : String) :
    (∃ e label, Refuses apps id e label) ∨ ∃ r, routed apps id = .ok r := by
  cases ha : apps id with
  | error reason => exact .inl ⟨_, _, .unavailable ha⟩
  | ok found =>
    cases found with
    | none => exact .inl ⟨_, _, .missing ha⟩
    | some a =>
      generalize hp : Protocol.parse a.protocol = p
      cases he : p.endpoint? with
      | some start =>
        exact .inr ⟨⟨a, p, .forward (start ++ "/" ++ a.id)⟩,
          routed_eq_ok_iff.2 ⟨ha, hp.symm, Decision.ofApp_of_endpoint? he⟩⟩
      | none =>
        cases hl : p.redirects with
        | true =>
          cases hurl : nonBlank? a.loginUrl with
          | some url =>
            refine .inr ⟨⟨a, p, .redirect url⟩, routed_eq_ok_iff.2 ⟨ha, hp.symm, ?_⟩⟩
            simp [Decision.ofApp, he, hl, hurl]
          | none => exact .inl ⟨_, _, .noLoginUrl ha hp hl (nonBlank?_eq_none_iff.1 hurl)⟩
        | false =>
          have hlogin : p.loginName? = none := by simp [Protocol.loginName?, hl]
          obtain ⟨text, rfl⟩ := Protocol.exists_eq_unsupported he hlogin
          exact .inl ⟨_, _, .unsupported ha hp⟩

/-- A request that is refused leaves behind that it was counted, and nothing else. -/
theorem Refuses.run_route {e : DispatchError} {label : String} (h : Refuses apps id e label)
    (c : Context) : (route apps id).run c = (.error e, c.counting (.dispatch label .error)) := by
  rw [route]
  cases h with
  | unavailable h | missing h =>
    rw [h]
    rfl
  | unsupported h hp =>
    rw [h]
    dsimp only
    rw [hp]
    rfl
  | @noLoginUrl a p h hp hredirects hurl =>
    have hd : Decision.ofApp a p = .error (.missingLoginUrl a.id p.name) := by
      have hl : p.loginName? = some p.name := by simp [Protocol.loginName?, hredirects]
      rw [Decision.ofApp_of_loginName? hl, nonBlank?_eq_none_iff.2 hurl]
    rw [h]
    dsimp only
    rw [hp, hd]
    rfl

/-- A request that is let through is counted under its protocol and its decision. -/
theorem run_route_of_routed {r : Route} (h : routed apps id = .ok r) (c : Context) :
    (route apps id).run c =
      (.ok r, c.counting (.dispatch r.protocol.label r.decision.result)) := by
  obtain ⟨app, protocol, decision⟩ := r
  obtain ⟨ha, hp, hd⟩ := routed_eq_ok_iff.1 h
  dsimp only at ha hp hd
  rw [route, ha]
  dsimp only
  rw [← hp, hd]
  rfl

/-- Routing fails exactly for the reasons for which a request is refused. -/
theorem routed_eq_error_iff {e : DispatchError} :
    routed apps id = .error e ↔ ∃ label, Refuses apps id e label := by
  rw [← run_route apps id .idle]
  constructor
  · intro h
    rcases refuses_or_routed apps id with ⟨e', label, hrefuses⟩ | ⟨r, hr⟩
    · rw [hrefuses.run_route] at h
      cases h
      exact ⟨label, hrefuses⟩
    · rw [run_route_of_routed hr] at h
      cases h
  · rintro ⟨label, h⟩
    rw [h.run_route]

/-- Dispatching tells the decision on the application that is found. -/
theorem exists_routed_of_dispatch {app : App} {d : Decision} {c : Context}
    (happ : apps id = .ok (some app)) (hd : ((dispatch apps id).run c).1 = .ok d) :
    ∃ r, routed apps id = .ok r ∧ app = r.app ∧ .parse app.protocol = r.protocol ∧
      d = r.decision := by
  rw [run_dispatch] at hd
  obtain ⟨r, hr, rfl⟩ := map_eq_ok_iff.1 hd
  obtain ⟨hfound, hprotocol, -⟩ := routed_eq_ok_iff.1 hr
  obtain rfl : app = r.app := Option.some.inj (Except.ok.inj (happ.symm.trans hfound))
  exact ⟨r, hr, rfl, hprotocol.symm, rfl⟩

variable {α : Type} {handler : Route → Activity (Except AuthzError α)}

/-- A request that is refused is not handled. -/
theorem Refuses.run_serve {e : DispatchError} {label : String} (h : Refuses apps id e label)
    (c : Context) :
    (serve apps id handler).run c =
      (.error (.dispatch e), c.counting (.dispatch label .error)) := by
  simp only [serve, Activity.withApp, Activity.currentAppId, Activity.run_bind]
  rw [h.run_route]
  rfl

/-- A request that is let through is handled while the application counts as being served. -/
theorem run_serve_of_routed {r : Route} (h : routed apps id = .ok r) (c : Context) :
    (serve apps id handler).run c =
      let handled := (handler r).run
        { c.counting (.dispatch r.protocol.label r.decision.result) with appId := some id }
      (handled.1, { handled.2 with appId := c.appId }) := by
  simp only [serve, Activity.withApp, Activity.currentAppId, Activity.run_bind]
  rw [run_route_of_routed h]
  rfl

end Dispatch

/-! ## Adapters -/

namespace Authorizer

/-- Adds adapters, one after the other. -/
def withAdapters (x : Authorizer) (adapters : List Adapter) : Authorizer :=
  adapters.foldl withAdapter x

/-- Of the adapters that were added one after the other, `a` is the last one for the protocol. -/
def LastFor (adapters : List Adapter) (p : Protocol) (a : Adapter) : Prop :=
  ∃ before after, adapters = before ++ a :: after ∧ a.protocol = p ∧ ∀ b ∈ after, b.protocol ≠ p

variable {x : Authorizer} {apps : AppLookup} {adapters : List Adapter} {a : Adapter} {p : Protocol}

theorem withAdapters_append_singleton (x : Authorizer) (adapters : List Adapter) (a : Adapter) :
    x.withAdapters (adapters ++ [a]) = (x.withAdapters adapters).withAdapter a :=
  List.foldl_concat ..

theorem apps_withAdapters (x : Authorizer) (adapters : List Adapter) :
    (x.withAdapters adapters).apps = x.apps := by
  induction adapters using List.reverseRecOn with
  | nil => rfl
  | append_singleton adapters a ih =>
    rw [withAdapters_append_singleton, ← ih]
    rfl

/-- Adding an adapter changes who serves its protocol, and nothing else. -/
theorem adapter?_withAdapter (x : Authorizer) (a : Adapter) (p : Protocol) :
    (x.withAdapter a).adapter? p = if a.protocol = p then some a else x.adapter? p := by
  simp only [adapter?, withAdapter, List.find?_cons]
  split
  · next ha => rw [if_pos (by simpa using ha)]
  · next ha =>
    have hne : a.protocol ≠ p := by simpa using ha
    rw [if_neg hne, List.find?_filter]
    congr 1
    funext b
    grind

/-- The last adapter for a protocol serves it. -/
theorem adapter?_withAdapters (apps : AppLookup) (adapters : List Adapter) (p : Protocol) :
    ((ofApps apps).withAdapters adapters).adapter? p =
      adapters.reverse.find? fun a ↦ a.protocol = p := by
  induction adapters using List.reverseRecOn with
  | nil => rfl
  | append_singleton adapters a ih =>
    rw [withAdapters_append_singleton, adapter?_withAdapter, ih, List.reverse_append]
    by_cases ha : a.protocol = p <;> simp [ha]

theorem adapter?_withAdapters_eq_none_iff :
    ((ofApps apps).withAdapters adapters).adapter? p = none ↔
      ∀ a ∈ adapters, a.protocol ≠ p := by
  simp [adapter?_withAdapters]

theorem adapter?_withAdapters_eq_some_iff :
    ((ofApps apps).withAdapters adapters).adapter? p = some a ↔ LastFor adapters p a := by
  rw [adapter?_withAdapters, List.find?_eq_some_iff_append]
  constructor
  · rintro ⟨ha, after, before, h, hafter⟩
    refine ⟨before.reverse, after.reverse, ?_, by simpa using ha, by simpa using hafter⟩
    rw [← List.reverse_reverse adapters, h]
    simp
  · rintro ⟨before, after, rfl, ha, hafter⟩
    exact ⟨by simpa using ha, after.reverse, before.reverse, by simp, by simpa using hafter⟩

/-! ## Authorization -/

/-- What is answered when an adapter was asked. -/
def told : Except IssuanceError Delivery → Except AuthzError Outcome
  | .ok d => .ok (.deliver d)
  | .error e => .error (.issuance e)

theorem told_ne_dispatch (result : Except IssuanceError Delivery) (e : DispatchError) :
    told result ≠ .error (.dispatch e) := by cases result <;> simp [told]

theorem told_ne_route (result : Except IssuanceError Delivery) (d : Decision) :
    told result ≠ .ok (.route d) := by cases result <;> simp [told]

/-- What is answered and left behind when a user is to be authorized for an application. A request
that is refused is counted and reaches no adapter. Any other one is handed to the last adapter for
the protocol of the application, while this counts as being served; only where there is none, the
decision is told. -/
structure Answers (apps : AppLookup) (adapters : List Adapter) (id : String) (user : Principal)
    (c : Context) (answer : Except AuthzError Outcome) (c' : Context) : Prop where
  dispatch_iff : ∀ e, answer = .error (.dispatch e) ↔ ((Dispatch.route apps id).run c).1 = .error e
  refused : ∀ e label, Dispatch.Refuses apps id e label →
    answer = .error (.dispatch e) ∧ c' = c.counting (.dispatch label .error)
  handed : ∀ app d a, apps id = .ok (some app) → ((Dispatch.dispatch apps id).run c).1 = .ok d →
    LastFor adapters (.parse app.protocol) a →
      let delivered := (a.deliver user app).run
        { c.counting (.dispatch (Protocol.parse app.protocol).label d.result) with
          appId := some id }
      answer = told delivered.1 ∧ c' = { delivered.2 with appId := c.appId }
  route_iff : ∀ d, answer = .ok (.route d) ↔ ((Dispatch.dispatch apps id).run c).1 = .ok d ∧
    ∀ app, apps id = .ok (some app) → ∀ a ∈ adapters, a.protocol ≠ .parse app.protocol
  routed : ∀ app d, apps id = .ok (some app) → answer = .ok (.route d) →
    c' = c.counting (.dispatch (Protocol.parse app.protocol).label d.result)

variable {id : String} {user : Principal} {c : Context}

theorem run_authorize_of_refuses {e : DispatchError} {label : String}
    (h : Dispatch.Refuses x.apps id e label) :
    (x.authorize id user).run c = (.error (.dispatch e), c.counting (.dispatch label .error)) :=
  h.run_serve c

theorem run_authorize_of_adapter {r : Route} (h : Dispatch.routed x.apps id = .ok r)
    (ha : x.adapter? r.protocol = some a) :
    (x.authorize id user).run c =
      let delivered := (a.deliver user r.app).run
        { c.counting (.dispatch r.protocol.label r.decision.result) with appId := some id }
      (told delivered.1, { delivered.2 with appId := c.appId }) := by
  rw [authorize, Dispatch.run_serve_of_routed h]
  simp only [ha, Activity.run_bind]
  cases ((a.deliver user r.app).run _).1 <;> rfl

theorem run_authorize_of_none {r : Route} (h : Dispatch.routed x.apps id = .ok r)
    (ha : x.adapter? r.protocol = none) :
    (x.authorize id user).run c = (.ok (.route r.decision),
      c.counting (.dispatch r.protocol.label r.decision.result)) := by
  rw [authorize, Dispatch.run_serve_of_routed h]
  simp only [ha]
  rfl

theorem answer_eq_dispatch_iff {e : DispatchError} :
    ((x.authorize id user).run c).1 = .error (.dispatch e) ↔
      ((Dispatch.route x.apps id).run c).1 = .error e := by
  rcases Dispatch.refuses_or_routed x.apps id with ⟨e', label, h⟩ | ⟨r, h⟩
  · rw [run_authorize_of_refuses h, h.run_route]
    simp
  · rw [Dispatch.run_route_of_routed h]
    cases ha : x.adapter? r.protocol with
    | some a =>
      rw [run_authorize_of_adapter h ha]
      simp [told_ne_dispatch]
    | none =>
      rw [run_authorize_of_none h ha]
      simp

theorem answer_eq_route_iff {d : Decision} :
    ((x.authorize id user).run c).1 = .ok (.route d) ↔
      ((Dispatch.dispatch x.apps id).run c).1 = .ok d ∧
        ∀ app, x.apps id = .ok (some app) → x.adapter? (.parse app.protocol) = none := by
  rw [Dispatch.run_dispatch]
  rcases Dispatch.refuses_or_routed x.apps id with ⟨e, label, h⟩ | ⟨r, h⟩
  · rw [run_authorize_of_refuses h, Dispatch.routed_eq_error_iff.2 ⟨label, h⟩]
    constructor
    · rintro ⟨⟩
    · rintro ⟨⟨⟩, -⟩
  · obtain ⟨happ, hprotocol, -⟩ := Dispatch.routed_eq_ok_iff.1 h
    rw [h, map_ok, happ]
    cases ha : x.adapter? r.protocol with
    | some a =>
      rw [run_authorize_of_adapter h ha]
      simp [told_ne_route, ← hprotocol, ha]
    | none =>
      rw [run_authorize_of_none h ha]
      simp [← hprotocol, ha]

/-- Whatever adapters were added, a user is authorized in this way. -/
theorem authorize_answers (apps : AppLookup) (adapters : List Adapter) (id : String)
    (user : Principal) (c : Context) :
    let run := (((ofApps apps).withAdapters adapters).authorize id user).run c
    Answers apps adapters id user c run.1 run.2 := by
  intro run
  have hsome {p : Protocol} {a : Adapter} (ha : LastFor adapters p a) :
      ((ofApps apps).withAdapters adapters).adapter? p = some a :=
    adapter?_withAdapters_eq_some_iff.2 ha
  have hnone (p : Protocol) : ((ofApps apps).withAdapters adapters).adapter? p = none ↔
      ∀ a ∈ adapters, a.protocol ≠ p := adapter?_withAdapters_eq_none_iff
  have happs : ((ofApps apps).withAdapters adapters).apps = apps := apps_withAdapters ..
  subst run
  generalize (ofApps apps).withAdapters adapters = x at hsome hnone happs ⊢
  subst happs
  refine ⟨fun e ↦ answer_eq_dispatch_iff, fun e label h ↦ ?_, fun app d a happ hd ha ↦ ?_,
    fun d ↦ ?_, fun app d happ h ↦ ?_⟩
  · rw [run_authorize_of_refuses h]
    exact ⟨rfl, rfl⟩
  · obtain ⟨r, hr, rfl, hprotocol, rfl⟩ := Dispatch.exists_routed_of_dispatch happ hd
    rw [hprotocol] at ha ⊢
    rw [run_authorize_of_adapter hr (hsome ha)]
    exact ⟨rfl, rfl⟩
  · simp only [answer_eq_route_iff, hnone]
  · obtain ⟨hd, hadapter⟩ := answer_eq_route_iff.1 h
    obtain ⟨r, hr, rfl, hprotocol, rfl⟩ := Dispatch.exists_routed_of_dispatch happ hd
    rw [hprotocol, run_authorize_of_none hr (hprotocol ▸ hadapter r.app happ)]

/-- An application that the second of two adapters serves, one without a login page whose protocol
has an adapter, and one whose protocol has none. -/
theorem authorize_answers_sample :
    let jwt : App := ⟨"a", "", "jwt", none, none, 1, none⟩
    let basic : App := ⟨"b", "", "Basic", some " ", none, 1, none⟩
    let cas : App := ⟨"c", "", "cas", none, none, 1, none⟩
    let first : Adapter := ⟨.jwt, fun _ _ ↦ pure (.ok ⟨"first", .post, []⟩)⟩
    let second : Adapter := ⟨.jwt, fun _ app ↦ pure (.error (.missingRedirectUri app.id))⟩
    let other : Adapter := ⟨.basic, fun _ _ ↦ pure (.ok ⟨"other", .get, []⟩)⟩
    let x := (ofApps (AppStore.ofList [jwt, basic, cas]).lookup).withAdapters [first, second, other]
    (x.authorize "a" .sample).run .idle =
        (.error (.issuance (.missingRedirectUri "a")), ⟨none, [.dispatch "JWT" .forward]⟩) ∧
      (x.authorize "b" .sample).run .idle =
        (.error (.dispatch (.missingLoginUrl "b" "Basic")), ⟨none, [.dispatch "Basic" .error]⟩) ∧
      ((x.authorize "c" .sample).run .idle).1 = .ok (.route (.forward "/authz/cas/c")) := by
  intro jwt basic cas first second other x
  have hanswers (id : String) := authorize_answers (AppStore.ofList [jwt, basic, cas]).lookup
    [first, second, other] id .sample .idle
  have hlookup : (AppStore.ofList [jwt, basic, cas]).lookup "a" = .ok (some jwt) ∧
      (AppStore.ofList [jwt, basic, cas]).lookup "b" = .ok (some basic) ∧
      (AppStore.ofList [jwt, basic, cas]).lookup "c" = .ok (some cas) := by decide +kernel
  have hblank : ∀ url, basic.loginUrl = some url → Blank url := by
    rintro url ⟨⟩ c hc
    obtain rfl := List.mem_singleton.1 hc
    rfl
  have hjwt : Protocol.parse jwt.protocol = .jwt := by decide +kernel
  have hbasic : Protocol.parse basic.protocol = .basic := by decide +kernel
  have hcas : Protocol.parse cas.protocol = .cas := by decide +kernel
  refine ⟨?_, ?_, ?_⟩
  · have hhanded := (hanswers "a").handed jwt (.forward "/authz/jwt/a") second hlookup.1
      (by decide +kernel) ⟨[first], [other], rfl, hjwt.symm, by simp [hjwt, other]⟩
    rw [hjwt] at hhanded
    exact Prod.ext hhanded.1 hhanded.2
  · obtain ⟨hanswer, hcontext⟩ := (hanswers "b").refused (.missingLoginUrl "b" "Basic") "Basic"
      (.noLoginUrl hlookup.2.1 hbasic rfl hblank)
    exact Prod.ext hanswer hcontext
  · refine ((hanswers "c").route_iff _).2 ⟨by decide +kernel, ?_⟩
    intro app happ
    obtain rfl : cas = app := Option.some.inj (Except.ok.inj (hlookup.2.2.symm.trans happ))
    simp [first, second, other, hcas]

end Authorizer

end SignOn
