import SignOn.Proofs.Program

/-!
# Scopes

A request is handled in a scope of its own, in which its application is the one that is served. A
handler may open further scopes, one in another or one after another. However they nest, and
however they end, the application that is served is the one of the innermost scope around.
-/

namespace SignOn

open Text

namespace Dispatch

/-- A handler of the request would start with this route, in this context. -/
def Starts (apps : AppLookup) (id : String) (c : Context) (r : Route) (start : Context) : Prop :=
  ((serve apps id fun r ↦ do return .ok (r, ← get)).run c).1 = .ok (r, start)

variable {apps : AppLookup} {id : String} {c start : Context} {r : Route}

/-- A handler starts when the request has been routed, which has been counted by then. -/
theorem starts_iff :
    Starts apps id c r start ↔
      routed apps id = .ok r ∧
        start = { c with appId := some id }.after [.route (apps id) (.ok r)] := by
  rw [Starts, serve, Activity.run_withApp, Activity.run_bind,
    route_yields apps id (some id) { c with appId := some id } rfl]
  cases routed apps id with
  | error e =>
    refine iff_of_false (fun h ↦ ?_) fun h ↦ ?_
    · cases h
    · cases h.1
  | ok found =>
    constructor
    · intro h
      obtain ⟨rfl, rfl⟩ := Prod.mk.inj (Except.ok.inj h)
      exact ⟨rfl, rfl⟩
    · rintro ⟨h, rfl⟩
      cases h
      rfl

theorem appId_of_starts (h : Starts apps id c r start) : start.appId = some id := by
  obtain ⟨-, rfl⟩ := starts_iff.1 h
  rfl

/-- The handler runs where it starts, and leaves behind what it counted. -/
theorem run_serve_of_starts {α : Type} (h : Starts apps id c r start)
    (handler : Route → Activity (Except AuthzError α)) :
    (serve apps id handler).run c =
      (((handler r).run start).1, { ((handler r).run start).2 with appId := c.appId }) := by
  obtain ⟨hr, rfl⟩ := starts_iff.1 h
  rw [serve, Activity.run_withApp, Activity.run_bind,
    route_yields apps id (some id) { c with appId := some id } rfl, hr]

/-- After a request the application is served that was served before, whether the handler
succeeded, failed or never ran. -/
theorem appId_of_run_serve {α : Type} {handler : Route → Activity (Except AuthzError α)}
    {b : Except AuthzError α} {c' : Context} (h : (serve apps id handler).run c = (b, c')) :
    c'.appId = c.appId := by
  rw [serve, Activity.run_withApp] at h
  obtain ⟨-, rfl⟩ := Prod.mk.inj h
  rfl

end Dispatch

theorem Authorizer.appId_of_run_authorize {x : Authorizer} {id : String} {user : Principal}
    {b : Except AuthzError Outcome} {c c' : Context}
    (h : (x.authorize id user).run c = (b, c')) : c'.appId = c.appId :=
  Dispatch.appId_of_run_serve h

namespace Program

/-- A program that is run in a context comes to this point, in this context, inside scopes for
applications with these ids, of which the first is the innermost. -/
inductive Reaches : {α β : Type} → Program α → Context → List String → Program β → Context → Prop
  | refl {α : Type} (p : Program α) (c : Context) : Reaches p c [] p c
  /-- The program goes on with what a call answers. -/
  | call {α β γ : Type} {k : Call γ} {next : γ → Program α} {b : γ} {c c₁ c' : Context}
    {ids : List String} {q : Program β} :
    k.perform.run c = (b, c₁) → Reaches (next b) c₁ ids q c' → Reaches (.call k next) c ids q c'
  /-- A handler starts in a scope of its own. -/
  | inside {α β γ : Type} {apps : AppLookup} {id : String}
    {handler : Route → Program (Except AuthzError γ)} {next : Except AuthzError γ → Program α}
    {r : Route} {c start c' : Context} {ids : List String} {q : Program β} :
    Dispatch.Starts apps id c r start → Reaches (handler r) start ids q c' →
      Reaches (.serve apps id handler next) c (ids ++ [id]) q c'
  /-- The program goes on with what comes of a request, in whatever way it ended. -/
  | after {α β γ : Type} {apps : AppLookup} {id : String}
    {handler : Route → Program (Except AuthzError γ)} {next : Except AuthzError γ → Program α}
    {b : Except AuthzError γ} {c c₁ c' : Context} {ids : List String} {q : Program β} :
    (Dispatch.serve apps id fun r ↦ (handler r).run).run c = (b, c₁) →
      Reaches (next b) c₁ ids q c' → Reaches (.serve apps id handler next) c ids q c'
  /-- The last adapter for the protocol of a request is asked in the scope of the request. -/
  | delivering {α β : Type} {n : Nat} {protocol : Fin n → Protocol}
    {delivers : Fin n → Principal → App → Program (Except IssuanceError Delivery)}
    {apps : AppLookup} {id : String} {user : Principal}
    {next : Except AuthzError Outcome → Program α} {r : Route} {i : Fin n} {c start c' : Context}
    {ids : List String} {q : Program β} :
    Dispatch.Starts apps id c r start → Authorizer.last? protocol r.protocol = some i →
      Reaches (delivers i user r.app) start ids q c' →
      Reaches (.authorize protocol delivers apps id user next) c (ids ++ [id]) q c'
  | authorized {α β : Type} {n : Nat} {protocol : Fin n → Protocol}
    {delivers : Fin n → Principal → App → Program (Except IssuanceError Delivery)}
    {apps : AppLookup} {id : String} {user : Principal}
    {next : Except AuthzError Outcome → Program α} {b : Except AuthzError Outcome}
    {c c₁ c' : Context} {ids : List String} {q : Program β} :
    ((Authorizer.ofAdapters protocol apps fun i user app ↦ (delivers i user app).run).authorize
      id user).run c = (b, c₁) →
      Reaches (next b) c₁ ids q c' →
      Reaches (.authorize protocol delivers apps id user next) c ids q c'

/-- A scope inside others hides them. -/
theorem head?_concat_or (ids : List String) (id : String) (outside : Option String) :
    (ids ++ [id]).head?.or outside = ids.head?.or (some id) := by
  rw [List.head?_append, Option.or_assoc]
  rfl

/-- Wherever a program comes, the application of the innermost scope is served there. -/
theorem Reaches.appId_eq {α β : Type} {p : Program α} {q : Program β} {c c' : Context}
    {ids : List String} (h : p.Reaches c ids q c') : c'.appId = ids.head?.or c.appId := by
  induction h with
  | refl p c => rfl
  | @call _ _ _ k _ _ c _ _ _ _ hrun _ ih =>
    rw [k.perform_yields c.appId c rfl] at hrun
    obtain ⟨-, rfl⟩ := Prod.mk.inj hrun
    rw [ih, Context.appId_after]
  | inside hstart _ ih => rw [ih, Dispatch.appId_of_starts hstart, head?_concat_or]
  | after hrun _ ih => rw [ih, Dispatch.appId_of_run_serve hrun]
  | delivering hstart _ _ ih => rw [ih, Dispatch.appId_of_starts hstart, head?_concat_or]
  | authorized hrun _ ih => rw [ih, Authorizer.appId_of_run_authorize hrun]

end Program

/-- What there is to see of the application that is served, or that there is none: a handler that
starts now runs with its own application, and then this one is served again, whether the request
succeeded, failed or could not be routed. A failed encryption is blamed on this application. -/
structure Context.Serves (c : Context) (served : Option String) : Prop where
  current : (Activity.currentAppId.run c).1 = served
  starts : ∀ apps id r start, Dispatch.Starts apps id c r start →
    (Activity.currentAppId.run start).1 = some id
  handles : ∀ {α : Type} apps id r start, Dispatch.Starts apps id c r start →
    ∀ handler : Route → Activity (Except AuthzError α),
      (Dispatch.serve apps id handler).run c =
        (((handler r).run start).1, { ((handler r).run start).2 with appId := served })
  serve : ∀ {α : Type} apps id (handler : Route → Activity (Except AuthzError α)),
    (Activity.currentAppId.run ((Dispatch.serve apps id handler).run c).2).1 = served
  authorize : ∀ (x : Authorizer) id user,
    (Activity.currentAppId.run ((x.authorize id user).run c).2).1 = served
  encrypt : ∀ (x : TokenIssuer) data kid algorithm e,
    x.service.encryptWith x.moment.entropy (utf8 data) kid ⟨algorithm, none, none⟩ = .error e →
      ((x.encrypt data kid algorithm).run c).1 = .error (.encryptionFailed (served.getD "") e)
  blames : ∀ (x : TokenIssuer) data kid algorithm id e,
    ((x.encrypt data kid algorithm).run c).1 = .error (.encryptionFailed id e) →
      id = served.getD ""

theorem Context.serves (c : Context) : c.Serves c.appId where
  current := rfl
  starts apps id r start h := Dispatch.appId_of_starts h
  handles apps id r start h := Dispatch.run_serve_of_starts h
  serve apps id handler := Dispatch.appId_of_run_serve rfl
  authorize x id user := Authorizer.appId_of_run_authorize rfl
  encrypt x data kid algorithm e h := by
    rw [x.encrypt_yields c.appId data kid algorithm c rfl, TokenIssuer.encryptedFor, h]
  blames x data kid algorithm id e h := by
    rw [x.encrypt_yields c.appId data kid algorithm c rfl, TokenIssuer.encryptedFor] at h
    split at h
    · cases h
    · exact (IssuanceError.encryptionFailed.inj (Except.error.inj h)).1.symm

/-- However requests nest, the application that is served at a point of a program is the one of the
innermost scope around it, and outside of all of them the one that was served before the program, if
any. That one is served again when the program has ended, which answers as if the application that
is served were handed down to each part of it. -/
theorem Program.scopes_nest {α : Type} (p : Program α) (c : Context) :
    (p.run.run c).1 = (p.trace c.appId).1 ∧ (p.run.run c).2.Serves c.appId ∧
      ∀ {β : Type} ids (q : Program β) c', p.Reaches c ids q c' →
        c'.Serves (ids.head?.or c.appId) ∧
          ((Activity.currentAppId.run c').1 = none ↔ ids = [] ∧ c.appId = none) := by
  rw [p.run_yields c.appId c rfl]
  refine ⟨rfl, (c.after _).serves, fun ids q c' h ↦ ?_⟩
  have hserves : c'.Serves (ids.head?.or c.appId) := h.appId_eq ▸ c'.serves
  refine ⟨hserves, ?_⟩
  rw [hserves.current, Option.or_eq_none_iff, List.head?_eq_none_iff]

/-- A handler has a request fail and opens another scope behind it; the program asks once more when
all of them have ended. -/
theorem Program.scopes_nest_sample :
    let a : App := ⟨"a", "", "jwt", none, none, 1, none⟩
    let b : App := ⟨"b", "", "cas", none, none, 1, none⟩
    let apps := (AppStore.ofList [a, b]).lookup
    let ask : Program (Except AuthzError (Option String)) :=
      .call .currentAppId fun id ↦ .done (.ok id)
    let behind : Program (Except AuthzError (Option String)) := .serve apps "b" (fun _ ↦ ask) .done
    let p : Program (Except AuthzError (Option String)) :=
      .serve apps "a" (fun _ ↦ .serve apps "missing" (fun _ ↦ ask) fun _ ↦ behind) fun _ ↦ ask
    (∃ c, p.Reaches .idle ["b", "a"] ask c ∧ c.Serves (some "b")) ∧
      (∃ c, p.Reaches .idle ["a"] behind c ∧ c.Serves (some "a")) ∧
      ∃ c, p.Reaches .idle [] ask c ∧ c.Serves none := by
  intro a b apps ask behind p
  have ha : Dispatch.routed apps "a" = .ok ⟨a, .jwt, .forward "/authz/jwt/a"⟩ := by decide +kernel
  have hb : Dispatch.routed apps "b" = .ok ⟨b, .cas, .forward "/authz/cas/b"⟩ := by decide +kernel
  have hbehind : p.Reaches .idle ([] ++ ["a"]) behind _ :=
    .inside (Dispatch.starts_iff.2 ⟨ha, rfl⟩) (.after Prod.mk.eta.symm (.refl _ _))
  have hinner : p.Reaches .idle ([] ++ ["b"] ++ ["a"]) ask _ :=
    .inside (Dispatch.starts_iff.2 ⟨ha, rfl⟩)
      (.after Prod.mk.eta.symm (.inside (Dispatch.starts_iff.2 ⟨hb, rfl⟩) (.refl _ _)))
  have hlast : p.Reaches .idle [] ask _ := .after Prod.mk.eta.symm (.refl _ _)
  obtain ⟨-, -, hscopes⟩ := scopes_nest p .idle
  exact ⟨⟨_, hinner, (hscopes _ _ _ hinner).1⟩, ⟨_, hbehind, (hscopes _ _ _ hbehind).1⟩,
    ⟨_, hlast, (hscopes _ _ _ hlast).1⟩⟩

end SignOn
