import SignOn.Issuance
import SignOn.Proofs.Claims
import SignOn.Proofs.Jose.Encryption
import SignOn.Proofs.Jose.Signing

/-!
# Issued tokens

Issuing assembles the claims of a user, signs them with the default signing key, and puts the
signed token into an encrypted one if the application asks for that. What comes out verifies on the
same service to exactly these claims, and a token that was to be encrypted never leaves as it was
signed.
-/

namespace SignOn

open Jose Json Outcome Text

/-! ## What activities answer -/

namespace Activity

variable {α β : Type}

theorem run_bind (m : Activity α) (f : α → Activity β) (s : Context) :
    (m >>= f).run s = (f (m.run s).1).run (m.run s).2 := rfl

/-- Counting does not change the result of an operation. -/
theorem run_observe (op : Operation) (result : Except Jose.Error α) (s : Context) :
    (observe op result).run s =
      (result, { s with counts := s.counts ++ [.operation op result.isOk] }) := rfl

end Activity

namespace TokenIssuer

variable (x : TokenIssuer)

/-- What is delivered of a signed token: itself, or an encrypted one that holds it. -/
def wrapped (a : App) (signed : SignedToken) : Except IssuanceError (String × Bool) :=
  match a.tokenEncryption with
  | none => .ok (signed.compact, false)
  | some w =>
    match x.service.encryptWith x.moment.entropy (utf8 signed.compact) w.keyId (options w) with
    | .ok t => .ok (t.compact, true)
    | .error e => .error (.encryptionFailed a.id e)

theorem run_wrap (a : App) (signed : SignedToken) (s : Context) :
    ((x.wrap a signed).run s).1 = x.wrapped a signed := by
  rw [wrap, wrapped]
  cases a.tokenEncryption with
  | none => rfl
  | some w =>
    simp only [Activity.encrypt, Activity.run_bind, Activity.run_observe]
    cases x.service.encryptWith x.moment.entropy (utf8 signed.compact) w.keyId (options w) <;> rfl

/-- What is delivered to an application that asks for encryption is an encrypted token. -/
theorem wrapped_eq_ok {a : App} {w : TokenEncryption} (hw : a.tokenEncryption = some w)
    {signed : SignedToken} {token : String} {encrypted : Bool}
    (h : x.wrapped a signed = .ok (token, encrypted)) :
    ∃ t, x.service.encryptWith x.moment.entropy (utf8 signed.compact) w.keyId (options w) = .ok t ∧
      token = t.compact ∧ encrypted = true := by
  rw [wrapped, hw] at h
  dsimp only at h
  split at h
  · next t ht =>
    obtain ⟨rfl, rfl⟩ := Prod.mk.inj (Except.ok.inj h)
    exact ⟨t, ht, rfl, rfl⟩
  · cases h

/-- The token that is issued, as far as it does not depend on what was counted before. -/
def issued (p : Principal) (a : App) : Except IssuanceError IssuedToken := do
  let kid := x.service.defaultSigningKeyId
  let claims ← (x.draft p a kid).build x.moment.now x.moment.entropy.uuid
  match x.service.sign x.moment.entropy claims.toJson kid none with
  | .error e => .error (.tokenIssuanceFailed a.id e)
  | .ok signed => do
    let (token, encrypted) ← x.wrapped a signed
    return ⟨token, claims, signed.keyId, signed.algorithm, encrypted⟩

theorem run_issue (p : Principal) (a : App) (s : Context) :
    ((x.issue p a).run s).1 = x.issued p a := by
  simp only [issue, issued]
  cases (x.draft p a x.service.defaultSigningKeyId).build x.moment.now x.moment.entropy.uuid with
  | error e => rfl
  | ok claims =>
    rw [ok_bind]
    simp only [Activity.sign, Activity.run_bind, Activity.run_observe]
    cases x.service.sign x.moment.entropy claims.toJson x.service.defaultSigningKeyId none with
    | error e => rfl
    | ok signed =>
      simp only [Activity.run_bind, run_wrap]
      cases x.wrapped a signed <;> rfl

/-- The claims that are signed for a user of an application. -/
def claims (x : TokenIssuer) (p : Principal) (a : App) : Except IssuanceError Claims :=
  (x.draft p a x.service.defaultSigningKeyId).build x.moment.now x.moment.entropy.uuid

/-- The answer to signing them. -/
def signed (x : TokenIssuer) (c : Claims) : Except Jose.Error SignedToken :=
  x.service.sign x.moment.entropy c.toJson x.service.defaultSigningKeyId none

variable {x} {p : Principal} {a : App} {i : IssuedToken} {e : IssuanceError}

/-- Wrapping fails exactly if the application asks for it and the encryption fails. -/
theorem wrapped_eq_error_iff {t : SignedToken} :
    x.wrapped a t = .error e ↔ ∃ w source, a.tokenEncryption = some w ∧
      x.service.encryptWith x.moment.entropy (utf8 t.compact) w.keyId (options w) =
        .error source ∧ e = .encryptionFailed a.id source := by
  rw [wrapped]
  cases a.tokenEncryption with
  | none => simp
  | some w =>
    dsimp only
    cases h : x.service.encryptWith x.moment.entropy (utf8 t.compact) w.keyId (options w) with
    | ok t' => simp [h]
    | error source => simp [h, eq_comm]

/-- Issuing fails with the claims, at signing them, or at wrapping what was signed. -/
theorem issued_eq_error_iff :
    x.issued p a = .error e ↔
      x.claims p a = .error e ∨ ∃ c, x.claims p a = .ok c ∧
        ((∃ source, x.signed c = .error source ∧ e = .tokenIssuanceFailed a.id source) ∨
          ∃ t, x.signed c = .ok t ∧ x.wrapped a t = .error e) := by
  rw [issued, ← claims]
  cases x.claims p a with
  | error e' => simp
  | ok c =>
    rw [ok_bind, ← signed]
    cases hsigned : x.signed c with
    | error source => simp [hsigned, eq_comm]
    | ok t => cases hwrapped : x.wrapped a t <;> simp [hsigned, hwrapped]

/-- What issuing that succeeds consists of. -/
theorem issued_eq_ok (h : x.issued p a = .ok i) :
    (x.draft p a x.service.defaultSigningKeyId).build x.moment.now x.moment.entropy.uuid =
        .ok i.claims ∧
      ∃ signed,
        x.service.sign x.moment.entropy i.claims.toJson x.service.defaultSigningKeyId none =
          .ok signed ∧
        x.wrapped a signed = .ok (i.token, i.encrypted) ∧ i.keyId = signed.keyId ∧
        i.algorithm = signed.algorithm := by
  obtain ⟨claims, hclaims, h⟩ := bind_eq_ok_iff.1 h
  split at h
  · cases h
  · next signed hsigned =>
    obtain ⟨⟨token, encrypted⟩, hwrapped, h⟩ := bind_eq_ok_iff.1 h
    obtain rfl := Except.ok.inj h
    exact ⟨hclaims, signed, hsigned, hwrapped, rfl, rfl⟩

/-- Once the claims are signed, issuing depends only on what is delivered of the signed token. -/
theorem issued_eq {c : Claims} {signed : SignedToken}
    (hclaims : (x.draft p a x.service.defaultSigningKeyId).build x.moment.now
      x.moment.entropy.uuid = .ok c)
    (hsigned : x.service.sign x.moment.entropy c.toJson x.service.defaultSigningKeyId none =
      .ok signed) :
    x.issued p a = (fun delivered ↦
      ⟨delivered.1, c, signed.keyId, signed.algorithm, delivered.2⟩) <$> x.wrapped a signed := by
  simp only [issued, hclaims, ok_bind, hsigned]
  cases x.wrapped a signed <;> rfl

/-! ## Issuers with one private RSA key -/

def ofPrivateKey (issuer id : String) (key : Crypto.Rsa.PrivateKey) (moment : Moment) :
    TokenIssuer :=
  ⟨issuer, Service.ofPrivateKey id key .none, moment⟩

section

variable {issuer id : String} {key : Crypto.Rsa.PrivateKey} (hkey : key.Strong) {moment : Moment}
  (ha : ∀ w ∈ a.tokenEncryption, w = ⟨none, none, none⟩)

include hkey ha

theorem exists_wrapped {signed : SignedToken}
    (hlength : (utf8 signed.compact).length ≤ Crypto.Gcm.lengthLimit) :
    ∃ delivered, (ofPrivateKey issuer id key moment).wrapped a signed = .ok delivered := by
  cases hw : a.tokenEncryption with
  | none =>
    rw [wrapped, hw]
    exact ⟨_, rfl⟩
  | some w =>
    obtain rfl := ha w hw
    obtain ⟨t, ht⟩ := Service.exists_encryptWith hkey id moment.entropy hlength (some "JWT")
    have ht' : (ofPrivateKey issuer id key moment).service.encryptWith
        (ofPrivateKey issuer id key moment).moment.entropy (utf8 signed.compact) none
        (options ⟨none, none, none⟩) = .ok t := ht
    rw [wrapped, hw]
    dsimp only
    rw [ht']
    exact ⟨_, rfl⟩

/-- A token is issued if the claims can be assembled and are not too long. -/
theorem exists_run_issue {c : Claims}
    (hclaims : ((ofPrivateKey issuer id key moment).draft p a (some id)).build moment.now
      moment.entropy.uuid = .ok c)
    (hlength : (utf8 (Signer.signingInput id .rs256 c.toJson)).length + 1025 ≤
      Crypto.Gcm.lengthLimit) (s : Context) :
    ∃ i s', ((ofPrivateKey issuer id key moment).issue p a).run s = (.ok i, s') := by
  obtain ⟨signed, hsigned, hcompact⟩ := Service.exists_sign hkey id moment.entropy c.toJson
  obtain ⟨delivered, hdelivered⟩ := exists_wrapped hkey ha (Nat.le_trans hcompact hlength)
  have hissued := issued_eq hclaims hsigned
  rw [hdelivered, map_ok] at hissued
  exact ⟨_, _, Prod.ext ((run_issue _ p a s).trans hissued) rfl⟩

end

end TokenIssuer

/-- A user of whom nothing is known but the names. -/
def Principal.sample : Principal := ⟨"ada", "7", none, none, none, none, none⟩

/-- An application whose tokens live for an hour. -/
def App.sample (w : Option TokenEncryption) : App := ⟨"portal", "", "jwt", none, none, 60, w⟩

/-- The claims of this user for this application. -/
def Claims.sample : Claims :=
  ⟨"issuer", "ada", ["portal"], Entropy.zeros.uuid, 0, 3600, none, none, some "7", none, none, none,
    some "a"⟩

/-- Whatever name the issuer goes by, as long as it is short. -/
theorem TokenIssuer.exists_run_issue_as {issuer : String}
    (hissuer : (utf8 (Signer.signingInput "a" .rs256
      (Claims.toJson { Claims.sample with iss := issuer }))).length ≤ 1000)
    {key : Crypto.Rsa.PrivateKey} (hkey : key.Strong) {w : Option TokenEncryption}
    (hw : ∀ v ∈ w, v = ⟨none, none, none⟩) :
    ∃ i s', ((ofPrivateKey issuer "a" key ⟨.zeros, 0⟩).issue .sample (.sample w)).run .idle =
      (.ok i, s') := by
  have hclaims : ((ofPrivateKey issuer "a" key ⟨.zeros, 0⟩).draft .sample (.sample w)
      (some "a")).build 0 Entropy.zeros.uuid = .ok { Claims.sample with iss := issuer } := by
    have hexp : ClaimsDraft.expiry? 60 0 = some 3600 := by decide
    exact ClaimsDraft.build_eq_ok_iff.2 ⟨3600, "ada", hexp, rfl, rfl⟩
  have hlimit : 1000 + 1025 ≤ Crypto.Gcm.lengthLimit := by decide
  exact exists_run_issue hkey hw hclaims (Nat.le_trans (Nat.add_le_add_right hissuer 1025) hlimit)
    .idle

theorem TokenIssuer.exists_run_issue_sample {key : Crypto.Rsa.PrivateKey} (hkey : key.Strong)
    {w : Option TokenEncryption} (hw : ∀ v ∈ w, v = ⟨none, none, none⟩) :
    ∃ i s', ((ofPrivateKey "issuer" "a" key ⟨.zeros, 0⟩).issue .sample (.sample w)).run .idle =
      (.ok i, s') :=
  exists_run_issue_as (by decide +kernel) hkey hw

/-! ## The claims -/

/-- The claims say of the user, the application and the time of issue what they have to say. -/
structure Claims.Reflects (c : Claims) (x : TokenIssuer) (p : Principal) (a : App) : Prop where
  iss : c.iss = x.issuer
  sub : c.sub = p.username
  aud : c.aud = [a.id]
  iat : c.iat = x.moment.now
  lifetime : 0 < a.lifetimeMinutes
  exp : c.exp.toInt = c.iat.toInt + 60 * a.lifetimeMinutes.toInt
  email : c.email = p.email
  name : c.name = p.displayName
  userId : c.userId = if p.userId = "" then none else some p.userId
  externalId : c.externalId = p.externalId
  locale : c.locale = p.locale
  onlineTicket : c.onlineTicket = p.sessionTicketId

namespace TokenIssuer

variable {x : TokenIssuer} {p : Principal} {a : App} {i : IssuedToken}

theorem reflects_of_build {kid : Option String} {jti : String} {c : Claims}
    (h : (x.draft p a kid).build x.moment.now jti = .ok c) : c.Reflects x p a ∧ c.kid = kid := by
  obtain ⟨exp, sub, hexp, hsub, rfl⟩ := ClaimsDraft.build_eq_ok_iff.1 h
  obtain ⟨hpos, hexp⟩ := ClaimsDraft.expiry?_eq_some hexp
  obtain rfl : p.username = sub := Option.some.inj hsub
  exact ⟨⟨rfl, rfl, rfl, rfl, hpos, hexp, rfl, rfl, rfl, rfl, rfl, rfl⟩, rfl⟩

/-! ## Signed tokens -/

variable {ring : KeyRing} {defaults : Defaults} {s s' : Context}

/-- The token that is signed verifies to the claims. -/
theorem verify_of_sign {signed : SignedToken} {c : Claims} {kid : Option String}
    (hbuilt : x.service.Built)
    (hrsa : ∀ k, x.service.ring.get? signed.keyId = some k → k.Countersigned)
    (h : x.service.sign x.moment.entropy c.toJson kid none = .ok signed) :
    x.service.verify Claims.decode signed.compact none = .ok c :=
  Service.verify_of_sign hbuilt hrsa h c.decode_toJson c.registered_toJson

/-- A token for an application that does not ask for encryption verifies on the same service,
without a key being named, to claims about the user and the application. They name the default
signing key, as do the header and the result, and the algorithm is the configured one or else the
one that the key prefers. Of an RSA key it is assumed that its public numbers accept what its
private half signs. -/
theorem verify_issue (hs : Service.build ring defaults = .ok x.service)
    (hrsa : ∀ id k, x.service.defaultSigningKeyId = some id → ring.get? id = some k →
      k.Countersigned)
    (hplain : a.tokenEncryption = none) (h : (x.issue p a).run s = (.ok i, s')) :
    x.service.verify Claims.decode i.token none = .ok i.claims ∧ i.claims.Reflects x p a ∧
      i.claims.kid = some i.keyId ∧ x.service.defaultSigningKeyId = some i.keyId ∧
      SignatureHeader.ofToken i.token = .ok ⟨.supported i.algorithm, some i.keyId⟩ ∧
      ∃ signer, x.service.signers.lookup i.keyId = some signer ∧
        i.algorithm = defaults.signingAlgorithm.getD signer.preferred := by
  have hissued : x.issued p a = .ok i := by rw [← run_issue x p a s, h]
  obtain ⟨hring, hdefaults, hbuilt⟩ := Service.of_build hs
  obtain ⟨hclaims, signed, hsigned, hwrapped, hkeyId, halgorithm⟩ := issued_eq_ok hissued
  obtain ⟨hreflects, hkid⟩ := reflects_of_build hclaims
  obtain ⟨hdefault, ⟨signer, hsigner, hchosen⟩, hheader⟩ := Service.token_of_sign hbuilt hsigned
  rw [Option.or_self] at hdefault
  rw [wrapped, hplain] at hwrapped
  obtain ⟨htoken, -⟩ := Prod.mk.inj (Except.ok.inj hwrapped)
  rw [← htoken, hkeyId, halgorithm, ← hdefaults]
  refine ⟨?_, hreflects, hkid.trans hdefault, hdefault, hheader, signer, hsigner, ?_⟩
  · refine verify_of_sign hbuilt (fun k hk ↦ hrsa signed.keyId k hdefault ?_) hsigned
    rw [← hring]
    exact hk
  · rw [hchosen, Service.choose, Option.none_or]

/-- It is so of an issuer with a key of 2048 bits. -/
theorem verify_issue_sample :
    ∃ (x : TokenIssuer) (i : IssuedToken) (s' : Context),
      Service.build (.single "a" (Jwk.ofPrivateKey "a" .sample)) .none = .ok x.service ∧
      (x.issue .sample (.sample none)).run .idle = (.ok i, s') ∧
      x.service.verify Claims.decode i.token none = .ok i.claims ∧
      i.claims.Reflects x .sample (.sample none) ∧
      i.claims.kid = some i.keyId ∧ x.service.defaultSigningKeyId = some i.keyId ∧
      SignatureHeader.ofToken i.token = .ok ⟨.supported i.algorithm, some i.keyId⟩ ∧
      ∃ signer, x.service.signers.lookup i.keyId = some signer ∧
        i.algorithm = Defaults.none.signingAlgorithm.getD signer.preferred := by
  have hkey := Crypto.Rsa.PrivateKey.strong_sample
  generalize Crypto.Rsa.PrivateKey.sample = key at hkey ⊢
  have hs := Service.build_ofPrivateKey "a" .none hkey
  obtain ⟨i, s', h⟩ := exists_run_issue_sample hkey (w := none) (fun _ hv ↦ by cases hv)
  have hverify := verify_issue hs
    (fun _ _ _ hk ↦ KeyRing.countersigned_of_get?_single hkey hk) rfl h
  exact ⟨_, i, s', hs, h, hverify⟩

/-! ## Encrypted tokens -/

/-- The token of an application that asks for encryption: under the key and with the algorithm and
the method that the application names, or else those configured, or else those preferred, it holds
a signed token that verifies to the claims. -/
structure Nests (x : TokenIssuer) (w : TokenEncryption) (i : IssuedToken) (id : String)
    (y : Encrypter) (header : EncryptionHeader) (inner : String) : Prop where
  key : w.keyId.or x.service.defaultEncryptionKeyId = some id
  encrypter : x.service.encrypters.lookup id = some y
  kid : header.kid = some id
  cty : header.cty = some "JWT"
  alg : header.alg = (w.algorithm.or x.service.defaults.encryptionAlgorithm).getD y.preferred.1
  enc : header.enc = (w.method.or x.service.defaults.encryptionMethod).getD y.preferred.2
  form : HasForm i.token header (utf8 inner)
  decrypts : (x.service.decrypters.lookup id).isSome →
    x.service.decrypt i.token (some id) = .ok (utf8 inner)
  verifies : x.service.verify Claims.decode inner none = .ok i.claims

theorem nests_of_issued (hbuilt : x.service.Built) {w : TokenEncryption}
    (hunwraps : ∀ id k key, w.keyId.or x.service.defaultEncryptionKeyId = some id →
      x.service.ring.get? id = some k → k.rsaPrivateKey? = .ok (some key) → key.Unwraps)
    (hrsa : ∀ id k, x.service.defaultSigningKeyId = some id → x.service.ring.get? id = some k →
      k.Countersigned)
    (hw : a.tokenEncryption = some w) (h : x.issued p a = .ok i) :
    i.encrypted = true ∧ ∃ id y header inner, x.Nests w i id y header inner := by
  obtain ⟨-, signed, hsigned, hwrapped, -, -⟩ := issued_eq_ok h
  obtain ⟨hdefault, -, -⟩ := Service.token_of_sign hbuilt hsigned
  rw [Option.or_self] at hdefault
  obtain ⟨t, ht, htoken, hencrypted⟩ := wrapped_eq_ok x hw hwrapped
  obtain ⟨hkey, ⟨y, hy, halg, henc⟩, hform⟩ := Service.token_of_encryptWith hbuilt ht
  refine ⟨hencrypted, t.keyId, y, ⟨t.algorithm, t.method, some t.keyId, some "JWT"⟩,
    signed.compact, ?_⟩
  exact {
    key := hkey
    encrypter := hy
    kid := rfl
    cty := rfl
    alg := halg
    enc := henc
    form := htoken ▸ hform
    decrypts := fun hdecrypter ↦ htoken ▸ Service.decrypt_of_encryptWith hbuilt hdecrypter
      (fun k key ↦ hunwraps t.keyId k key hkey) ht
    verifies := verify_of_sign hbuilt (fun k ↦ hrsa signed.keyId k hdefault) hsigned }

/-- A token for an application that asks for encryption is encrypted, and holds a signed token that
verifies to the claims; if it cannot be encrypted, that is the error, and nothing is issued. Other
applications get the signed token itself. Of RSA keys it is assumed that the private half unwraps
what the public half wrapped, and that the public numbers accept what the private half signs. -/
theorem issue_encrypts (hs : Service.build ring defaults = .ok x.service)
    (hunwraps : ∀ w id k key, a.tokenEncryption = some w →
      w.keyId.or x.service.defaultEncryptionKeyId = some id → ring.get? id = some k →
        k.rsaPrivateKey? = .ok (some key) → key.Unwraps)
    (hrsa : ∀ id k, x.service.defaultSigningKeyId = some id → ring.get? id = some k →
      k.Countersigned) :
    (∀ w, a.tokenEncryption = some w →
      (∀ i s', (x.issue p a).run s = (.ok i, s') →
        i.encrypted = true ∧ ∃ id y header inner, x.Nests w i id y header inner) ∧
      ∀ claims signed e,
        (x.draft p a x.service.defaultSigningKeyId).build x.moment.now x.moment.entropy.uuid =
            .ok claims →
          x.service.sign x.moment.entropy claims.toJson x.service.defaultSigningKeyId none =
              .ok signed →
            x.service.encryptWith x.moment.entropy (utf8 signed.compact) w.keyId (options w) =
                .error e →
              ∃ s', (x.issue p a).run s = (.error (.encryptionFailed a.id e), s')) ∧
    (a.tokenEncryption = none → ∀ i s', (x.issue p a).run s = (.ok i, s') →
      i.encrypted = false ∧ ∃ signed,
        x.service.sign x.moment.entropy i.claims.toJson x.service.defaultSigningKeyId none =
          .ok signed ∧ i.token = signed.compact) := by
  obtain ⟨rfl, -, hbuilt⟩ := Service.of_build hs
  have hissued {i : IssuedToken} {s' : Context} (h : (x.issue p a).run s = (.ok i, s')) :
      x.issued p a = .ok i := by rw [← run_issue x p a s, h]
  refine ⟨fun w hw ↦ ⟨fun i s' h ↦ ?_, fun claims signed e hclaims hsigned he ↦ ?_⟩,
    fun hplain i s' h ↦ ?_⟩
  · exact nests_of_issued hbuilt (fun id k key ↦ hunwraps w id k key hw) hrsa hw (hissued h)
  · have herror : x.issued p a = .error (.encryptionFailed a.id e) := by
      rw [issued_eq hclaims hsigned, wrapped, hw]
      dsimp only
      rw [he]
      rfl
    exact ⟨((x.issue p a).run s).2, Prod.ext ((run_issue x p a s).trans herror) rfl⟩
  · obtain ⟨-, signed, hsigned, hwrapped, -, -⟩ := issued_eq_ok (hissued h)
    rw [wrapped, hplain] at hwrapped
    obtain ⟨htoken, hencrypted⟩ := Prod.mk.inj (Except.ok.inj hwrapped)
    exact ⟨hencrypted.symm, signed, hsigned, htoken.symm⟩

/-- An issuer with a key of 2048 bits issues such a token. -/
theorem issue_encrypts_sample :
    ∃ (x : TokenIssuer) (i : IssuedToken) (s' : Context),
      Service.build (.single "a" (Jwk.ofPrivateKey "a" .sample)) .none = .ok x.service ∧
      (x.issue .sample (.sample (some ⟨none, none, none⟩))).run .idle = (.ok i, s') ∧
      i.encrypted = true ∧
      ∃ id y header inner, x.Nests ⟨none, none, none⟩ i id y header inner := by
  have hkey := Crypto.Rsa.PrivateKey.strong_sample
  generalize Crypto.Rsa.PrivateKey.sample = key at hkey ⊢
  have hs := Service.build_ofPrivateKey "a" .none hkey
  obtain ⟨i, s', h⟩ := exists_run_issue_sample hkey (w := some ⟨none, none, none⟩)
    (fun _ hv ↦ (Option.some.inj hv).symm)
  have hencrypts := issue_encrypts (x := ofPrivateKey "issuer" "a" key ⟨.zeros, 0⟩)
    (p := .sample) (a := .sample (some ⟨none, none, none⟩)) (s := .idle) hs
    (fun _ _ _ _ _ _ hk hprivate ↦ KeyRing.unwraps_of_get?_single hkey hk hprivate)
    (fun _ _ _ hk ↦ KeyRing.countersigned_of_get?_single hkey hk)
  exact ⟨_, i, s', hs, h, (hencrypts.1 _ rfl).1 i s' h⟩

end TokenIssuer

end SignOn
