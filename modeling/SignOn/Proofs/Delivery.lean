import SignOn.Proofs.Program

/-!
# How a delivery ends

Four things can stand in the way of a delivery, and they are looked at in a fixed order: there is
nowhere to deliver to, the token would never expire, it cannot be signed, or it cannot be encrypted.
The first one that is found is the error. Whether the token would expire is known before any key is
looked at.
-/

namespace SignOn

open ClaimsDraft Jose Json Outcome Text

/-- The application's tokens are posted to this address. -/
def App.PostsTo (a : App) (uri : String) : Prop := a.redirectUri = some uri ∧ ¬Blank uri

namespace TokenIssuer

variable {x : TokenIssuer} {p : Principal} {a : App} {e : IssuanceError}

/-! ## What goes wrong at each stage -/

/-- A user is a subject, so the lifetime is all that can be wrong with the claims. -/
theorem claims_eq_error_iff :
    x.claims p a = .error e ↔
      ¬Expires a.lifetimeMinutes x.moment.now ∧ e = .invalidLifetime a.id a.lifetimeMinutes := by
  have hdraft : x.claims p a = .error e ↔
      ¬Expires a.lifetimeMinutes x.moment.now ∧
          e = .invalidLifetime (String.intercalate "," [a.id]) a.lifetimeMinutes ∨
        Expires a.lifetimeMinutes x.moment.now ∧ some p.username = none ∧
          e = .missingClaim "sub" := build_eq_error_iff
  have hid : String.intercalate "," [a.id] = a.id := rfl
  rw [hdraft, hid]
  simp

theorem exists_claims_iff :
    (∃ c, x.claims p a = .ok c) ↔ Expires a.lifetimeMinutes x.moment.now := by
  rw [← exists_expiry?_iff]
  constructor
  · rintro ⟨c, hc⟩
    obtain ⟨exp, -, hexp, -, -⟩ := build_eq_ok_iff.1 hc
    exact ⟨exp, hexp⟩
  · rintro ⟨exp, hexp⟩
    exact ⟨_, build_eq_ok_iff.2 ⟨exp, p.username, hexp, rfl, rfl⟩⟩

/-- Why a delivery fails: a case for each stage, in the order in which they are passed. -/
inductive DeliveryFails (x : TokenIssuer) (p : Principal) (a : App) : IssuanceError → Prop where
  | target (htarget : ∀ uri, ¬a.PostsTo uri) : DeliveryFails x p a (.missingRedirectUri a.id)
  | lifetime {uri : String} (htarget : a.PostsTo uri)
    (hexpires : ¬Expires a.lifetimeMinutes x.moment.now) :
    DeliveryFails x p a (.invalidLifetime a.id a.lifetimeMinutes)
  | signing {uri : String} {c : Claims} {source : Jose.Error} (htarget : a.PostsTo uri)
    (hclaims : x.claims p a = .ok c) (hsigned : x.signed c = .error source) :
    DeliveryFails x p a (.tokenIssuanceFailed a.id source)
  | wrapping {uri : String} {c : Claims} {t : SignedToken} {w : TokenEncryption}
    {source : Jose.Error} (htarget : a.PostsTo uri) (hclaims : x.claims p a = .ok c)
    (hsigned : x.signed c = .ok t) (hw : a.tokenEncryption = some w)
    (hwrapped : x.service.encryptWith x.moment.entropy (utf8 t.compact) w.keyId (options w) =
      .error source) : DeliveryFails x p a (.encryptionFailed a.id source)

theorem delivered_of_postsTo {uri : String} (h : a.PostsTo uri) :
    x.delivered p a = (fun i ↦ ⟨uri, .post, [("token", i.token)]⟩) <$> x.issued p a := by
  rw [delivered, nonBlank?_eq_some_iff.2 h]

theorem delivered_of_not_postsTo (h : ∀ uri, ¬a.PostsTo uri) :
    x.delivered p a = .error (.missingRedirectUri a.id) := by
  have hnone : nonBlank? a.redirectUri = none :=
    Option.eq_none_iff_forall_ne_some.2 fun uri huri ↦ h uri (nonBlank?_eq_some_iff.1 huri)
  rw [delivered, hnone]

theorem delivered_eq_error_iff : x.delivered p a = .error e ↔ x.DeliveryFails p a e := by
  by_cases htarget : ∃ uri, a.PostsTo uri
  · obtain ⟨uri, htarget⟩ := htarget
    have hissued : x.delivered p a = .error e ↔ x.issued p a = .error e := by
      rw [delivered_of_postsTo htarget]
      cases x.issued p a <;> simp
    rw [hissued, issued_eq_error_iff]
    constructor
    · rintro (hclaims | ⟨c, hclaims, ⟨source, hsigned, rfl⟩ | ⟨t, hsigned, hwrapped⟩⟩)
      · obtain ⟨hexpires, rfl⟩ := claims_eq_error_iff.1 hclaims
        exact .lifetime htarget hexpires
      · exact .signing htarget hclaims hsigned
      · obtain ⟨w, source, hw, hfails, rfl⟩ := wrapped_eq_error_iff.1 hwrapped
        exact .wrapping htarget hclaims hsigned hw hfails
    · intro h
      cases h with
      | target hnone => exact absurd htarget (hnone uri)
      | lifetime _ hexpires => exact .inl (claims_eq_error_iff.2 ⟨hexpires, rfl⟩)
      | signing _ hclaims hsigned => exact .inr ⟨_, hclaims, .inl ⟨_, hsigned, rfl⟩⟩
      | wrapping _ hclaims hsigned hw hwrapped =>
        exact .inr ⟨_, hclaims, .inr ⟨_, hsigned, wrapped_eq_error_iff.2 ⟨_, _, hw, hwrapped, rfl⟩⟩⟩
  · have hnone := not_exists.1 htarget
    rw [delivered_of_not_postsTo hnone]
    constructor
    · intro h
      obtain rfl := Except.error.inj h
      exact .target hnone
    · intro h
      cases h with
      | target => rfl
      | lifetime h | signing h | wrapping h => exact absurd h (hnone _)

theorem delivered_eq_ok_iff {d : Delivery} :
    x.delivered p a = .ok d ↔ ∃ uri i, a.PostsTo uri ∧ x.issued p a = .ok i ∧
      d = ⟨uri, .post, [("token", i.token)]⟩ := by
  constructor
  · intro h
    by_cases htarget : ∃ uri, a.PostsTo uri
    · obtain ⟨uri, htarget⟩ := htarget
      rw [delivered_of_postsTo htarget] at h
      obtain ⟨i, hi, rfl⟩ := map_eq_ok_iff.1 h
      exact ⟨uri, i, htarget, hi, rfl⟩
    · rw [delivered_of_not_postsTo (not_exists.1 htarget)] at h
      cases h
  · rintro ⟨uri, i, htarget, hi, rfl⟩
    rw [delivered_of_postsTo htarget, hi, map_ok]

/-! ## The order of the stages -/

/-- A token that would not expire is rejected with this error, whatever the keys are. -/
def rejection (a : App) : IssuanceError :=
  match nonBlank? a.redirectUri with
  | none => .missingRedirectUri a.id
  | some _ => .invalidLifetime a.id a.lifetimeMinutes

/-- No operation on keys is performed then, and nothing else happens that would be counted. -/
theorem run_deliver_of_not_expires (h : ¬Expires a.lifetimeMinutes x.moment.now) (s : Context) :
    (x.deliver p a).run s = (.error (rejection a), s) := by
  have hclaims : x.claims p a = .error (.invalidLifetime a.id a.lifetimeMinutes) :=
    claims_eq_error_iff.2 ⟨h, rfl⟩
  have hissued : x.issued p a = .error (.invalidLifetime a.id a.lifetimeMinutes) :=
    issued_eq_error_iff.2 (.inl hclaims)
  rw [x.deliver_yields p a s.appId s rfl, delivered, deliverEvents, issueEvents, ← claims, hclaims,
    hissued, rejection]
  cases nonBlank? a.redirectUri with
  | none => exact Prod.ext rfl s.after_nil
  | some uri => exact Prod.ext rfl (s.after_failed _)

/-- How a delivery ends, and when. An error belongs to a stage, and the stages before it have been
passed then: there are claims only with an expiry, and a signed token only with claims. -/
structure DeliveryEnds (x : TokenIssuer) (p : Principal) (a : App) (s : Context)
    (answer : Except IssuanceError Delivery) : Prop where
  missingRedirectUri_iff : ∀ id, answer = .error (.missingRedirectUri id) ↔
    id = a.id ∧ ∀ uri, ¬a.PostsTo uri
  invalidLifetime_iff : ∀ id minutes, answer = .error (.invalidLifetime id minutes) ↔
    id = a.id ∧ minutes = a.lifetimeMinutes ∧ (∃ uri, a.PostsTo uri) ∧
      ¬Expires a.lifetimeMinutes x.moment.now
  exists_claims_iff : (∃ c, x.claims p a = .ok c) ↔ Expires a.lifetimeMinutes x.moment.now
  tokenIssuanceFailed_iff : ∀ id source, answer = .error (.tokenIssuanceFailed id source) ↔
    id = a.id ∧ (∃ uri, a.PostsTo uri) ∧ ∃ c, x.claims p a = .ok c ∧ x.signed c = .error source
  encryptionFailed_iff : ∀ id source, answer = .error (.encryptionFailed id source) ↔
    id = a.id ∧ (∃ uri, a.PostsTo uri) ∧ ∃ c t w, x.claims p a = .ok c ∧ x.signed c = .ok t ∧
      a.tokenEncryption = some w ∧
      x.service.encryptWith x.moment.entropy (utf8 t.compact) w.keyId (options w) = .error source
  ok_iff : ∀ d, answer = .ok d ↔ ∃ uri i, a.PostsTo uri ∧ ((x.issue p a).run s).1 = .ok i ∧
    d = ⟨uri, .post, [("token", i.token)]⟩
  ne_missingClaim : ∀ claim, answer ≠ .error (.missingClaim claim)

theorem deliveryEnds_delivered (x : TokenIssuer) (p : Principal) (a : App) (s : Context) :
    DeliveryEnds x p a s (x.delivered p a) where
  missingRedirectUri_iff id := by
    rw [delivered_eq_error_iff]
    constructor
    · intro h
      cases h with
      | target htarget => exact ⟨rfl, htarget⟩
    · rintro ⟨rfl, htarget⟩
      exact .target htarget
  invalidLifetime_iff id minutes := by
    rw [delivered_eq_error_iff]
    constructor
    · intro h
      cases h with
      | lifetime htarget hexpires => exact ⟨rfl, rfl, ⟨_, htarget⟩, hexpires⟩
    · rintro ⟨rfl, rfl, ⟨_, htarget⟩, hexpires⟩
      exact .lifetime htarget hexpires
  exists_claims_iff := exists_claims_iff
  tokenIssuanceFailed_iff id source := by
    rw [delivered_eq_error_iff]
    constructor
    · intro h
      cases h with
      | signing htarget hclaims hsigned => exact ⟨rfl, ⟨_, htarget⟩, _, hclaims, hsigned⟩
    · rintro ⟨rfl, ⟨_, htarget⟩, _, hclaims, hsigned⟩
      exact .signing htarget hclaims hsigned
  encryptionFailed_iff id source := by
    rw [delivered_eq_error_iff]
    constructor
    · intro h
      cases h with
      | wrapping htarget hclaims hsigned hw hwrapped =>
        exact ⟨rfl, ⟨_, htarget⟩, _, _, _, hclaims, hsigned, hw, hwrapped⟩
    · rintro ⟨rfl, ⟨_, htarget⟩, _, _, _, hclaims, hsigned, hw, hwrapped⟩
      exact .wrapping htarget hclaims hsigned hw hwrapped
  ok_iff d := by rw [delivered_eq_ok_iff, run_issue]
  ne_missingClaim claim h := by cases delivered_eq_error_iff.1 h

/-- Every delivery ends like this. One whose token would not expire ends the same for any two
services, and leaves no trace of an operation on keys. -/
theorem delivery_ends (x : TokenIssuer) (p : Principal) (a : App) (s : Context) :
    DeliveryEnds x p a s ((x.deliver p a).run s).1 ∧
      (¬Expires a.lifetimeMinutes x.moment.now → ∀ service : Service,
        (deliver { x with service := service } p a).run s = (x.deliver p a).run s ∧
          ((x.deliver p a).run s).2 = s) := by
  refine ⟨?_, fun hexpires service ↦ ?_⟩
  · rw [x.deliver_yields p a s.appId s rfl]
    exact deliveryEnds_delivered x p a s
  · have hother : ¬Expires a.lifetimeMinutes { x with service := service }.moment.now := hexpires
    rw [run_deliver_of_not_expires hexpires, run_deliver_of_not_expires hother]
    exact ⟨rfl, rfl⟩

/-- Without keys an application with an address is told that its tokens would not expire, if they
would not, and otherwise that nothing signs them. -/
theorem delivery_ends_sample :
    let x : TokenIssuer := ⟨"issuer", ⟨.empty, .none, []⟩, ⟨.zeros, 0⟩⟩
    let a : App := { App.sample none with redirectUri := some "https://portal" }
    ((x.deliver .sample { a with lifetimeMinutes := 0 }).run .idle).1 =
        .error (.invalidLifetime "portal" 0) ∧
      ((x.deliver .sample a).run .idle).1 =
        .error (.tokenIssuanceFailed "portal" (.noUsableKeys .sign)) := by
  intro x a
  have htarget : a.PostsTo "https://portal" :=
    ⟨rfl, fun hblank ↦ absurd (hblank 'h' (by decide)) (by decide)⟩
  constructor
  · obtain ⟨hends, -⟩ := delivery_ends x .sample { a with lifetimeMinutes := 0 } .idle
    refine (hends.invalidLifetime_iff _ _).2 ⟨rfl, rfl, ⟨_, htarget⟩, fun h ↦ ?_⟩
    exact absurd h.positive (by decide)
  · obtain ⟨hends, -⟩ := delivery_ends x .sample a .idle
    obtain ⟨c, hc⟩ := hends.exists_claims_iff.2 ⟨by decide, by decide, by decide⟩
    exact (hends.tokenIssuanceFailed_iff _ _).2 ⟨rfl, ⟨_, htarget⟩, c, hc, rfl⟩

end TokenIssuer

end SignOn
