import Mathlib.Data.List.Induction
import SignOn.Dispatch
import SignOn.Proofs.Keyed
import SignOn.Proofs.Outcome
import SignOn.Proofs.Text.Trim

/-!
# Where requests go

Of the records with one id the last one counts. The protocol of an application may be spelled in
any case and with blanks around it. Fifteen spellings lead to an endpoint and three to the login
page of the application; no other text leads anywhere.
-/

namespace SignOn

open Outcome Text

/-! ## Applications in memory -/

namespace AppStore

/-- Putting a record in changes what is found under its id, and nothing else. -/
theorem find?_insert (s : AppStore) (a : App) (id : String) :
    (s.insert a).find? id = if a.id = id then some a else s.find? id := by
  rw [find?, insert, Keyed.lookup_insert]
  exact if_congr eq_comm rfl rfl

theorem ofList_append_singleton (apps : List App) (a : App) :
    ofList (apps ++ [a]) = (ofList apps).insert a := List.foldl_concat ..

/-- Putting records in one by one is collecting them under their ids. -/
theorem ofList_eq (apps : List App) :
    ofList apps = ⟨Keyed.ofList (apps.map fun a ↦ (a.id, a))⟩ := by
  induction apps using List.reverseRecOn with
  | nil => rfl
  | append_singleton apps a ih =>
    rw [ofList_append_singleton, ih, List.map_append, List.map_singleton,
      Keyed.ofList_append_singleton]
    rfl

/-- The last record with an id is found. -/
theorem find?_ofList (apps : List App) (id : String) :
    (ofList apps).find? id = apps.reverse.find? fun a ↦ a.id = id := by
  induction apps using List.reverseRecOn with
  | nil => rfl
  | append_singleton apps a ih =>
    rw [ofList_append_singleton, find?_insert, ih, List.reverse_append]
    by_cases ha : a.id = id <;> simp [ha]

theorem find?_ofList_eq_none_iff {apps : List App} {id : String} :
    (ofList apps).find? id = none ↔ ∀ a ∈ apps, a.id ≠ id := by
  simp [find?_ofList]

theorem find?_ofList_append_cons {before after : List App} {a : App} {id : String} (ha : a.id = id)
    (hafter : ∀ b ∈ after, b.id ≠ id) : (ofList (before ++ a :: after)).find? id = some a := by
  have hnone : after.reverse.find? (fun b ↦ b.id = id) = none := by simpa using hafter
  rw [find?_ofList, List.reverse_append, List.reverse_cons, List.append_assoc, List.find?_append,
    hnone]
  simp [ha]

end AppStore

/-! ## Spellings -/

namespace Protocol

/-- The spellings of the protocols with an endpoint, with the start of its paths. -/
def endpointSpellings : List (String × String) :=
  [("extend_api", "/authz/api"), ("extendapi", "/authz/api"), ("form_based", "/authz/formbased"),
    ("formbased", "/authz/formbased"), ("oauth_v2.0", "/authz/oauth/v20"),
    ("oauth20", "/authz/oauth/v20"), ("openid_connect_v1.0", "/authz/oauth/v20"),
    ("oidc10", "/authz/oauth/v20"), ("openidconnect10", "/authz/oauth/v20"),
    ("saml_v2.0", "/authz/saml20/idpinit"), ("saml20", "/authz/saml20/idpinit"),
    ("token_based", "/authz/tokenbased"), ("tokenbased", "/authz/tokenbased"),
    ("cas", "/authz/cas"), ("jwt", "/authz/jwt")]

/-- The spellings of the protocols that send users to a login page, with their names. -/
def loginSpellings : List (String × String) :=
  [("oauth_v2.1", "OAuth_v2.1"), ("oauth21", "OAuth_v2.1"), ("basic", "Basic")]

/-- The name of a protocol that sends users to a login page. -/
def loginName? (p : Protocol) : Option String := if p.redirects then some p.name else none

theorem loginName?_of_endpoint? {p : Protocol} {start : String} (h : p.endpoint? = some start) :
    p.loginName? = none := by
  cases p with
  | oauth21 | basic | unsupported => cases h
  | _ => rfl

theorem nodup_spellings : (spellings.map Prod.fst).Nodup := by decide

/-- A property that no unsupported protocol has is looked up by the spelling. -/
theorem property_parse {α : Type} {property : Protocol → Option α} {table : List (String × α)}
    (htable : table = spellings.filterMap fun x ↦ (property x.2).map fun a ↦ (x.1, a))
    (hunsupported : ∀ text, property (.unsupported text) = none) (s : String) :
    property (parse s) = table.lookup (foldAscii (trim s)) := by
  rw [htable, Keyed.lookup_filterMap nodup_spellings, parse]
  cases spellings.lookup (foldAscii (trim s)) with
  | some p => rfl
  | none => exact hunsupported s

theorem endpoint?_parse (s : String) :
    (parse s).endpoint? = endpointSpellings.lookup (foldAscii (trim s)) :=
  property_parse rfl (fun _ ↦ rfl) s

theorem loginName?_parse (s : String) :
    (parse s).loginName? = loginSpellings.lookup (foldAscii (trim s)) :=
  property_parse rfl (fun _ ↦ rfl) s

theorem isSupported_of_lookup {t : String} {p : Protocol} (h : spellings.lookup t = some p) :
    p.isSupported = true := by
  have hall : ∀ x ∈ spellings, x.2.isSupported = true := by decide
  exact hall (t, p) (Keyed.mem_of_lookup h)

/-- A protocol with neither an endpoint nor a login page is not supported. -/
theorem exists_eq_unsupported {p : Protocol} (hendpoint : p.endpoint? = none)
    (hlogin : p.loginName? = none) : ∃ text, p = .unsupported text := by
  cases p with
  | unsupported text => exact ⟨text, rfl⟩
  | oauth21 | basic => cases hlogin
  | _ => cases hendpoint

/-- A text that is not a spelling stands for itself. -/
theorem eq_of_parse_eq_unsupported {s text : String} (h : parse s = .unsupported text) :
    text = s := by
  rw [parse] at h
  split at h
  · next p hp =>
    subst h
    cases isSupported_of_lookup hp
  · exact (unsupported.inj h).symm

/-- The names of the supported protocols are spellings of them. -/
theorem parse_name_of_isSupported {p : Protocol} (h : p.isSupported = true) : parse p.name = p := by
  cases p with
  | unsupported text => cases h
  | _ => rfl

/-- What is read is read again from its name. -/
theorem parse_name (s : String) : parse (parse s).name = parse s := by
  cases h : parse s with
  | unsupported text =>
    obtain rfl := eq_of_parse_eq_unsupported h
    exact h
  | _ => exact parse_name_of_isSupported rfl

end Protocol

/-! ## Decisions -/

/-- Where the record of an application sends a request if its protocol is spelled `p`, blanks and
capitals apart: to the endpoint of the protocol, or to the login page, or nowhere. -/
structure App.Directs (a : App) (p : String) (result : Except DispatchError Decision) : Prop where
  forward_iff : ∀ path, result = .ok (.forward path) ↔
    ∃ start, Protocol.endpointSpellings.lookup p = some start ∧ path = start ++ "/" ++ a.id
  redirect_iff : ∀ url, result = .ok (.redirect url) ↔
    p ∈ Protocol.loginSpellings.map Prod.fst ∧ a.loginUrl = some url ∧ ¬Blank url
  missingLoginUrl_iff : ∀ id name, result = .error (.missingLoginUrl id name) ↔
    Protocol.loginSpellings.lookup p = some name ∧ id = a.id ∧
      ∀ url, a.loginUrl = some url → Blank url
  unsupportedProtocol_iff : ∀ id text, result = .error (.unsupportedProtocol id text) ↔
    p ∉ Protocol.endpointSpellings.map Prod.fst ∧ p ∉ Protocol.loginSpellings.map Prod.fst ∧
      id = a.id ∧ text = a.protocol

namespace Decision

variable {a : App} {p : Protocol}

theorem ofApp_of_endpoint? {start : String} (h : p.endpoint? = some start) :
    ofApp a p = .ok (.forward (start ++ "/" ++ a.id)) := by rw [ofApp, h]

theorem ofApp_of_loginName? {name : String} (h : p.loginName? = some name) :
    ofApp a p =
      match nonBlank? a.loginUrl with
      | some url => .ok (.redirect url)
      | none => .error (.missingLoginUrl a.id name) := by
  cases p with
  | oauth21 | basic =>
    obtain rfl := Option.some.inj h
    rfl
  | _ => cases h

theorem ofApp_ne_appNotFound (a : App) (p : Protocol) (id : String) :
    ofApp a p ≠ .error (.appNotFound id) := by
  rw [ofApp]
  split
  · simp
  · split
    · split <;> simp
    · simp

/-- The three ways in which the record of an application can direct a request. -/
theorem directs_ofApp (a : App) :
    a.Directs (foldAscii (trim a.protocol)) (ofApp a (.parse a.protocol)) := by
  have hendpoint := Protocol.endpoint?_parse a.protocol
  have hlogin := Protocol.loginName?_parse a.protocol
  cases he : (Protocol.parse a.protocol).endpoint? with
  | some start =>
    rw [he] at hendpoint
    rw [Protocol.loginName?_of_endpoint? he] at hlogin
    rw [ofApp_of_endpoint? he]
    constructor <;> simp [← Keyed.isSome_lookup_iff, ← hendpoint, ← hlogin, eq_comm]
  | none =>
    rw [he] at hendpoint
    cases hl : (Protocol.parse a.protocol).loginName? with
    | some name =>
      rw [hl] at hlogin
      rw [ofApp_of_loginName? hl]
      cases hurl : nonBlank? a.loginUrl with
      | some url =>
        obtain ⟨hsome, hblank⟩ := nonBlank?_eq_some_iff.1 hurl
        constructor <;> simp [← Keyed.isSome_lookup_iff, ← hendpoint, ← hlogin, hsome, hblank]
      | none =>
        have hblank := nonBlank?_eq_none_iff.1 hurl
        refine ⟨by simp [← hendpoint], fun url ↦ ?_, fun id name' ↦ ?_,
          by simp [← Keyed.isSome_lookup_iff, ← hlogin]⟩
        · constructor
          · rintro ⟨⟩
          · rintro ⟨-, hsome, hnot⟩
            exact absurd (hblank url hsome) hnot
        · rw [← hlogin]
          constructor
          · rintro ⟨⟩
            exact ⟨rfl, rfl, hblank⟩
          · rintro ⟨⟨⟩, rfl, -⟩
            rfl
    | none =>
      rw [hl] at hlogin
      obtain ⟨text, hp⟩ := Protocol.exists_eq_unsupported he hl
      obtain rfl := Protocol.eq_of_parse_eq_unsupported hp
      rw [hp]
      show a.Directs _ (.error (.unsupportedProtocol a.id a.protocol))
      constructor <;> simp [← Keyed.isSome_lookup_iff, ← hendpoint, ← hlogin, eq_comm]

end Decision

namespace Dispatch

/-- The route of a request, as far as it does not depend on what was counted before. -/
def routed (apps : AppLookup) (appId : String) : Except DispatchError Route :=
  match apps appId with
  | .error reason => .error (.repository reason)
  | .ok none => .error (.appNotFound appId)
  | .ok (some app) => do
    let decision ← Decision.ofApp app (.parse app.protocol)
    return ⟨app, .parse app.protocol, decision⟩

theorem run_route (apps : AppLookup) (appId : String) (c : Context) :
    ((route apps appId).run c).1 = routed apps appId := by
  rw [route, routed]
  cases apps appId with
  | error reason => rfl
  | ok found =>
    cases found with
    | none => rfl
    | some app =>
      dsimp only
      cases Decision.ofApp app (.parse app.protocol) <;> rfl

theorem run_dispatch (apps : AppLookup) (appId : String) (c : Context) :
    ((dispatch apps appId).run c).1 = Route.decision <$> routed apps appId := by
  rw [← run_route apps appId c]
  rfl

/-- The record of an application decides. -/
theorem decision_routed {store : AppStore} {id : String} {a : App} (h : store.find? id = some a) :
    Route.decision <$> routed store.lookup id = Decision.ofApp a (.parse a.protocol) := by
  rw [routed, AppStore.lookup, h]
  dsimp only
  cases Decision.ofApp a (.parse a.protocol) <;> rfl

/-- A request for an application that is held in memory is refused if there is no record with the
id; otherwise the last record with it decides. It does not matter whether the records are put in one
after the other or collected under their ids. What is read of a protocol is read again from its
name. -/
theorem dispatch_outcome (apps : List App) (id : String) (c : Context) :
    AppStore.ofList apps = ⟨Keyed.ofList (apps.map fun a ↦ (a.id, a))⟩ ∧
    (((dispatch (AppStore.ofList apps).lookup id).run c).1 = .error (.appNotFound id) ↔
      ∀ a ∈ apps, a.id ≠ id) ∧
    (∀ before a after t, apps = before ++ a :: after → a.id = id → (∀ b ∈ after, b.id ≠ id) →
      Trims a.protocol t →
        a.Directs (foldAscii t) ((dispatch (AppStore.ofList apps).lookup id).run c).1) ∧
    ∀ s, Protocol.parse (Protocol.parse s).name = Protocol.parse s := by
  refine ⟨AppStore.ofList_eq apps, ?_, ?_, Protocol.parse_name⟩
  · rw [run_dispatch, ← AppStore.find?_ofList_eq_none_iff]
    cases hfind : (AppStore.ofList apps).find? id with
    | none => simp [routed, AppStore.lookup, hfind]
    | some a =>
      rw [decision_routed hfind]
      simp [Decision.ofApp_ne_appNotFound]
  · rintro before a after t rfl ha hafter ht
    rw [run_dispatch, decision_routed (AppStore.find?_ofList_append_cons ha hafter), ht.eq_trim]
    exact Decision.directs_ofApp a

/-- An application that was registered twice, the second time with a protocol in capitals between
blanks, and one with a blank login page. -/
theorem dispatch_outcome_sample :
    let cas : App := ⟨"a", "", "cas", none, none, 1, none⟩
    let basic : App := ⟨"b", "", "basic", some "\u2003", none, 1, none⟩
    let oidc : App := ⟨"a", "", "\u00a0OIDC10 ", none, none, 1, none⟩
    ((dispatch (AppStore.ofList [cas, basic, oidc]).lookup "a").run .idle).1 =
        .ok (.forward "/authz/oauth/v20/a") ∧
      ((dispatch (AppStore.ofList [cas, basic, oidc]).lookup "b").run .idle).1 =
        .error (.missingLoginUrl "b" "Basic") ∧
      ((dispatch (AppStore.ofList [cas, basic, oidc]).lookup "c").run .idle).1 =
        .error (.appNotFound "c") := by
  intro cas basic oidc
  obtain ⟨-, -, hforward, -⟩ := dispatch_outcome [cas, basic, oidc] "a" .idle
  obtain ⟨-, -, hmissing, -⟩ := dispatch_outcome [cas, basic, oidc] "b" .idle
  obtain ⟨-, hnone, -, -⟩ := dispatch_outcome [cas, basic, oidc] "c" .idle
  refine ⟨?_, ?_, hnone.2 (by decide)⟩
  · have hdirects := hforward [cas, basic] oidc [] _ rfl rfl (by simp) (trims_trim _)
    exact (hdirects.forward_iff _).2 ⟨"/authz/oauth/v20", by decide, rfl⟩
  · have hdirects := hmissing [cas] basic [oidc] _ rfl rfl (by decide) (trims_trim _)
    refine (hdirects.missingLoginUrl_iff _ _).2 ⟨by decide, rfl, ?_⟩
    rintro url ⟨⟩ c hc
    obtain rfl := List.mem_singleton.1 hc
    rfl

end Dispatch

end SignOn
