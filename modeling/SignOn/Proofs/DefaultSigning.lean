import SignOn.Proofs.Issuance
import SignOn.Proofs.Jose.KeyChoice

/-!
# Signing with the default key

Issuing a token names the default signing key to the service instead of leaving the choice to it.
That makes no difference to what is signed, or to whether it can be signed at all. It makes one to
the error if no key of the service signs: what is missing then is the key that was named.
-/

namespace SignOn

open Jose Json Outcome

namespace Jose.Service

variable {α : Type} {able : List (String × α)} {op : Operation} {s : Service} {r : Entropy}
  {claims : Value} {algorithm : Option SignatureAlgorithm}

/-- To name the default is to leave the choice open, as long as there is something to choose. -/
theorem resolve_default {default : Option String} (h : able ≠ [] ∨ default = none) :
    resolve able op default default = resolve able op none default := by
  cases default with
  | none => rfl
  | some kid =>
    rw [resolve_of_ne_nil (h.resolve_right (Option.some_ne_none kid))]
    rfl

theorem sign_default (h : s.signers ≠ [] ∨ s.defaultSigningKeyId = none) :
    s.sign r claims s.defaultSigningKeyId algorithm = s.sign r claims none algorithm := by
  rw [sign, sign, resolve_default h]

theorem sign_none_of_signers_eq_nil (h : s.signers = []) :
    s.sign r claims none algorithm = .error (.noUsableKeys .sign) := by
  rw [sign, h]
  rfl

theorem sign_some_of_signers_eq_nil (h : s.signers = []) (kid : String) :
    s.sign r claims (some kid) algorithm = .error (.unknownKeyId kid .sign) := by
  rw [sign, h]
  rfl

/-- Whether something is signed does not depend on whether the default key is named. -/
theorem sign_default_eq_ok_iff {t : SignedToken} :
    s.sign r claims s.defaultSigningKeyId algorithm = .ok t ↔
      s.sign r claims none algorithm = .ok t := by
  by_cases h : s.signers = []
  · rw [sign_none_of_signers_eq_nil h]
    cases hdefault : s.defaultSigningKeyId with
    | none => rw [sign_none_of_signers_eq_nil h]
    | some kid => simp [sign_some_of_signers_eq_nil h]
  · rw [sign_default (.inl h)]

theorem exists_sign_default_eq_error_iff :
    (∃ e, s.sign r claims s.defaultSigningKeyId algorithm = .error e) ↔
      ∃ e, s.sign r claims none algorithm = .error e := by
  simp only [exists_eq_error_iff, ne_eq, sign_default_eq_ok_iff]

end Jose.Service

/-! ## Lifetimes -/

/-- The lifetime of the application's tokens is positive, and a token that is issued now expires at
a time that can be told. -/
structure App.LivesFrom (a : App) (now : Int64) : Prop where
  positive : 0 < a.lifetimeMinutes
  lasts : 60 * a.lifetimeMinutes.toInt ≤ Int64.maxValue.toInt
  expires : now.toInt + 60 * a.lifetimeMinutes.toInt ≤ Int64.maxValue.toInt

/-- There is no expiry that is too early to be told. -/
theorem App.livesFrom_iff {a : App} {now : Int64} :
    a.LivesFrom now ↔ ClaimsDraft.Expires a.lifetimeMinutes now := by
  have hmin : Int64.minValue.toInt ≤ now.toInt := by
    rw [Int64.toInt_minValue]
    exact Int64.le_toInt now
  constructor
  · rintro ⟨hpositive, hlasts, hexpires⟩
    have hminutes := Int64.lt_iff_toInt_lt.1 hpositive
    rw [Int64.toInt_zero] at hminutes
    refine ⟨hpositive, ⟨?_, hlasts⟩, ⟨by omega, hexpires⟩⟩
    rw [Int64.toInt_minValue]
    omega
  · rintro ⟨hpositive, ⟨-, hlasts⟩, ⟨-, hexpires⟩⟩
    exact ⟨hpositive, hlasts, hexpires⟩

namespace TokenIssuer

variable {x : TokenIssuer} {p : Principal} {a : App} {c : Claims}

/-- The claims of a token can be put together if its lifetime allows for an expiry. -/
theorem exists_draft (ha : a.LivesFrom x.moment.now) (p : Principal) (kid : Option String) :
    ∃ c, (x.draft p a kid).build x.moment.now x.moment.entropy.uuid = .ok c := by
  obtain ⟨exp, hexp⟩ := ClaimsDraft.exists_expiry?_iff.2 (App.livesFrom_iff.1 ha)
  exact ⟨_, ClaimsDraft.build_eq_ok_iff.2 ⟨exp, p.username, hexp, rfl, rfl⟩⟩

/-- Issuing fails at the signing step exactly if signing fails, and with the same error. -/
theorem issued_eq_tokenIssuanceFailed_iff
    (hclaims : (x.draft p a x.service.defaultSigningKeyId).build x.moment.now
      x.moment.entropy.uuid = .ok c) {id : String} {e : Jose.Error} :
    x.issued p a = .error (.tokenIssuanceFailed id e) ↔ id = a.id ∧
      x.service.sign x.moment.entropy c.toJson x.service.defaultSigningKeyId none = .error e := by
  rw [issued_eq_error_iff, claims, hclaims]
  simp [wrapped_eq_error_iff, signed, and_comm]

/-- Issuing fails because nothing is signed, for a reason, and operators find that under a code. -/
structure FailsToSign (a : App) (answer : Except IssuanceError IssuedToken) (source : Jose.Error)
    (code : String) : Prop where
  answer_eq : answer = .error (.tokenIssuanceFailed a.id source)
  code_eq : (AuthzError.issuance (.tokenIssuanceFailed a.id source)).code = code

/-- How the signing step of issuing ends, beside what the service answers to signing the claims `c`
when neither a key nor an algorithm is named. -/
structure SigningStep (x : TokenIssuer) (a : App) (c : Claims)
    (answer : Except IssuanceError IssuedToken) : Prop where
  fails_iff : (∃ id e, answer = .error (.tokenIssuanceFailed id e)) ↔
    ∃ e, x.service.sign x.moment.entropy c.toJson none none = .error e
  same_token : ∀ t, x.service.sign x.moment.entropy c.toJson none none = .ok t →
    answer = (fun delivered ↦ ⟨delivered.1, c, t.keyId, t.algorithm, delivered.2⟩) <$> x.wrapped a t
  same_error : x.service.signers ≠ [] ∨ x.service.defaultSigningKeyId = none → ∀ id e,
    answer = .error (.tokenIssuanceFailed id e) ↔ id = a.id ∧
      x.service.sign x.moment.entropy c.toJson none none = .error e
  noUsableKeys : x.service.signers = [] → x.service.defaultSigningKeyId = none →
    FailsToSign a answer (.noUsableKeys .sign) "AUTHZ_CONFIGURATION_ERROR"
  unknownKeyId : x.service.signers = [] → ∀ kid, x.service.defaultSigningKeyId = some kid →
    FailsToSign a answer (.unknownKeyId kid .sign) "AUTHZ_KEY_RESOLUTION_ERROR"

theorem signingStep_issued
    (hclaims : (x.draft p a x.service.defaultSigningKeyId).build x.moment.now
      x.moment.entropy.uuid = .ok c) : SigningStep x a c (x.issued p a) := by
  refine ⟨?_, fun t ht ↦ ?_, fun h id e ↦ ?_, fun hsigners hdefault ↦ ⟨?_, rfl⟩,
    fun hsigners kid hdefault ↦ ⟨?_, rfl⟩⟩
  · simp only [issued_eq_tokenIssuanceFailed_iff hclaims, exists_and_left, exists_eq_left,
      Service.exists_sign_default_eq_error_iff]
  · exact issued_eq hclaims (Service.sign_default_eq_ok_iff.2 ht)
  · rw [issued_eq_tokenIssuanceFailed_iff hclaims, Service.sign_default h]
  · rw [issued_eq_tokenIssuanceFailed_iff hclaims, hdefault,
      Service.sign_none_of_signers_eq_nil hsigners]
    exact ⟨rfl, rfl⟩
  · rw [issued_eq_tokenIssuanceFailed_iff hclaims, hdefault,
      Service.sign_some_of_signers_eq_nil hsigners]
    exact ⟨rfl, rfl⟩

/-- For an application with a valid lifetime the signing step of issuing fails exactly if the
service does not sign the claims by itself. The error is the same, unless no key of the service
signs and yet there is a default one: issuing misses that key, while the service says that no key
is usable. -/
theorem signing_step (ha : a.LivesFrom x.moment.now) (p : Principal) (s : Context) :
    ∃ c, (x.draft p a x.service.defaultSigningKeyId).build x.moment.now x.moment.entropy.uuid =
        .ok c ∧ SigningStep x a c ((x.issue p a).run s).1 := by
  obtain ⟨c, hclaims⟩ := exists_draft ha p x.service.defaultSigningKeyId
  rw [run_issue]
  exact ⟨c, hclaims, signingStep_issued hclaims⟩

/-- Without any key there is no default either, and none is missed. -/
theorem signing_step_sample :
    ∃ s, Service.build .empty .none = .ok s ∧ (App.sample none).LivesFrom 0 ∧
      FailsToSign (.sample none)
        ((issue ⟨"issuer", s, ⟨.zeros, 0⟩⟩ .sample (.sample none)).run .idle).1
        (.noUsableKeys .sign) "AUTHZ_CONFIGURATION_ERROR" := by
  have hlives : (App.sample none).LivesFrom 0 := ⟨by decide, by decide, by decide⟩
  obtain ⟨c, -, hstep⟩ := signing_step (x := ⟨"issuer", ⟨.empty, .none, []⟩, ⟨.zeros, 0⟩⟩) hlives
    .sample .idle
  exact ⟨_, rfl, hlives, hstep.noUsableKeys rfl rfl⟩

/-- The only key is a secret that encrypts, but is too short to sign. Issuing misses this key, and
not just any key that signs. -/
theorem issue_misses_default :
    ∃ (x : TokenIssuer) (c : Claims),
      Service.build (.single "mac" (.ofSecret "mac" (List.replicate 16 0))) .none = .ok x.service ∧
      x.service.signers = [] ∧
      (x.draft .sample (.sample none) x.service.defaultSigningKeyId).build x.moment.now
        x.moment.entropy.uuid = .ok c ∧
      x.service.sign x.moment.entropy c.toJson none none = .error (.noUsableKeys .sign) ∧
      FailsToSign (.sample none) ((x.issue .sample (.sample none)).run .idle).1
        (.unknownKeyId "mac" .sign) "AUTHZ_KEY_RESOLUTION_ERROR" ∧
      ((x.issue .sample (.sample none)).run .idle).1 ≠
        .error (.tokenIssuanceFailed "portal" (.noUsableKeys .sign)) := by
  let short : Jwk := .ofSecret "mac" (List.replicate 16 0)
  let able : Capabilities := ⟨some (.direct "mac" (List.replicate 16 0) .a128gcm),
    some (.direct "mac" (List.replicate 16 0) .a128gcm), none, none⟩
  have hable : Capabilities.ofJwk "mac" short = .ok able := by decide +kernel
  have hs : Service.build (.single "mac" short) .none =
      .ok ⟨.single "mac" short, .none, [("mac", able)]⟩ := Service.build_single .none hable
  let x : TokenIssuer := ⟨"issuer", ⟨.single "mac" short, .none, [("mac", able)]⟩, ⟨.zeros, 0⟩⟩
  have hlives : (App.sample none).LivesFrom x.moment.now := ⟨by decide, by decide, by decide⟩
  obtain ⟨c, hclaims⟩ := exists_draft hlives .sample x.service.defaultSigningKeyId
  have hfails := (signingStep_issued hclaims).unknownKeyId rfl "mac" rfl
  refine ⟨x, c, hs, rfl, hclaims, Service.sign_none_of_signers_eq_nil rfl, ?_, ?_⟩
  · rw [run_issue]
    exact hfails
  · rw [run_issue, hfails.answer_eq]
    simp

end TokenIssuer

end SignOn
