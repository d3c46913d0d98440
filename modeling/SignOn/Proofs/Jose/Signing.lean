import SignOn.Proofs.Crypto.Rsa.Signature
import SignOn.Proofs.Jose.Verification

/-!
# Verifying what was signed

A key that signs also verifies, by the same algorithms. The token names the key in its header, so
the service finds the key again without being told.
-/

namespace SignOn.Jose

open Crypto Json Outcome Text

/-! ## Signer and verifier of one key -/

/-- The public numbers accept what the private half of the key signs. -/
def Jwk.Countersigned (k : Jwk) : Prop :=
  ∀ key n e, k.rsaPrivateKey? = .ok (some key) → k.n = some (Base64Url.encode n) →
    k.e = some (Base64Url.encode e) → key.SignsFor ⟨n, e⟩

/-- It is so if the public numbers may be used at all, which rules out leading zeros. -/
theorem Jwk.countersigned_of_usable {k : Jwk} (h : ∀ n e, k.n = some (Base64Url.encode n) →
    k.e = some (Base64Url.encode e) → Rsa.VerifyingKey.Usable ⟨n, e⟩) : k.Countersigned := by
  intro key n e hkey hn he
  obtain ⟨hsound, hmodulus, hexponent⟩ := number_of_rsaPrivateKey? hkey
  rw [hn, number_encode] at hmodulus
  rw [he, number_encode] at hexponent
  refine hsound.signsFor (h n e hn he) ?_
  rw [Rsa.VerifyingKey.toPublic, Rsa.PrivateKey.toPublic, Except.ok.inj hmodulus,
    Except.ok.inj hexponent]

theorem KeyRing.countersigned_of_get?_single {kid id : String} {key : Rsa.PrivateKey}
    (hkey : key.Strong) {k : Jwk} (hk : (single kid (Jwk.ofPrivateKey kid key)).get? id = some k) :
    k.Countersigned := by
  obtain ⟨-, rfl⟩ := get?_single_eq_some_iff.1 hk
  refine Jwk.countersigned_of_usable fun n e hn he ↦ ?_
  obtain rfl : octets key.modulus = n := Base64Url.encode_injective (Option.some.inj hn)
  obtain rfl : octets key.exponent = e := Base64Url.encode_injective (Option.some.inj he)
  exact hkey.usable

/-- A verifier that accepts the signatures of a signer. -/
structure Counterpart (x : Signer) (v : Verifier) : Prop where
  algorithms_eq : v.algorithms = x.algorithms
  accepts (r : Entropy) (a : SignatureAlgorithm) (message signature : Bytes) :
    x.key.sign r a message = .ok signature →
      v.key.Accepts a message (Base64Url.encode signature)

section

variable {kid : String} {k : Jwk} {x : Signer}

theorem Counterpart.of_ofJwk {v : Verifier} (hrsa : k.Countersigned)
    (hx : Signer.ofJwk kid k = .ok (some x)) (hv : Verifier.ofJwk kid k = .ok (some v)) :
    Counterpart x v := by
  rcases Signer.ofJwk_eq_some_iff.1 hx with ⟨hkind, key, hkey, hmake⟩ |
    ⟨hkind, secret, hsecret, hmake⟩
  · obtain ⟨preferred, -, rfl⟩ := Signer.make?_eq_some_iff.1 hmake
    rcases Verifier.ofJwk_eq_some_iff.1 hv with ⟨-, -, n, e, hn, he, rfl⟩ | ⟨hkind', -⟩
    · refine ⟨rfl, fun r a message signature hsign ↦ ?_⟩
      cases hpadding : a.padding? with
      | none =>
        simp only [SigningKey.sign, hpadding] at hsign
        cases hsign
      | some padding =>
        simp only [SigningKey.sign, hpadding] at hsign
        have hverify := hrsa key n e hkey (Verifier.strictMember_eq_ok_iff.1 hn)
          (Verifier.strictMember_eq_ok_iff.1 he) padding a.hash _ message signature
          (Vector.length_toList) hsign
        exact ⟨padding, signature, hpadding, rfl, hverify⟩
    · rw [hkind] at hkind'
      cases hkind'
  · obtain ⟨preferred, -, rfl⟩ := Signer.make?_eq_some_iff.1 hmake
    rcases Verifier.ofJwk_eq_some_iff.1 hv with ⟨hkind', -⟩ | ⟨-, secret', hsecret', -, rfl⟩
    · rw [hkind] at hkind'
      cases hkind'
    · obtain rfl := Except.ok.inj (hsecret.symm.trans hsecret')
      refine ⟨rfl, fun r a message signature hsign ↦ ?_⟩
      obtain rfl := Except.ok.inj hsign
      rfl

/-- A key that signs verifies, unless it is unsound. -/
theorem Verifier.ofJwk_ne_none (hx : Signer.ofJwk kid k = .ok (some x)) :
    Verifier.ofJwk kid k ≠ .ok none := by
  intro hnone
  rcases Signer.ofJwk_eq_some_iff.1 hx with ⟨hkind, -⟩ | ⟨hkind, secret, hsecret, hmake⟩
  · rw [Verifier.ofJwk, hkind] at hnone
    obtain ⟨key, -, hnone⟩ := bind_eq_ok_iff.1 hnone
    obtain ⟨n, -, hnone⟩ := bind_eq_ok_iff.1 hnone
    obtain ⟨e, -, hnone⟩ := bind_eq_ok_iff.1 hnone
    cases hnone
  · obtain ⟨preferred, hpreferred, -⟩ := Signer.make?_eq_some_iff.1 hmake
    have hmem := Signer.preference?_mem hpreferred
    rw [Verifier.ofJwk, hkind] at hnone
    obtain ⟨secret', hsecret', hnone⟩ := bind_eq_ok_iff.1 hnone
    obtain rfl := Except.ok.inj (hsecret.symm.trans hsecret')
    split at hnone
    · next hempty =>
      rw [hempty] at hmem
      cases hmem
    · cases hnone

end

/-! ## Signed tokens -/

/-- What a signature that succeeds consists of. -/
theorem Signer.sign_eq_ok {x : Signer} {r : Entropy} {claims : Value} {a : SignatureAlgorithm}
    {t : SignedToken} (h : x.sign r claims a = .ok t) :
    a ∈ x.algorithms ∧ ∃ signature,
      x.key.sign r a (utf8 (signingInput x.kid a claims)) = .ok signature ∧
      t = ⟨Dotted.join [signingInput x.kid a claims, Base64Url.encode signature], x.kid, a⟩ := by
  simp only [sign, ite_error_eq_ok_iff, Decidable.not_not] at h
  obtain ⟨ha, h⟩ := h
  refine ⟨ha, ?_⟩
  split at h
  · next signature hsignature =>
    obtain rfl := Except.ok.inj h
    exact ⟨signature, hsignature, rfl⟩
  · cases h

/-- The header of a signed token names its algorithm and its key. -/
theorem SignatureHeader.ofToken_of_sign {x : Signer} {r : Entropy} {claims : Value}
    {a : SignatureAlgorithm} {t : SignedToken} (h : x.sign r claims a = .ok t) :
    SignatureHeader.ofToken t.compact = .ok ⟨.supported t.algorithm, some t.keyId⟩ := by
  obtain ⟨-, signature, -, rfl⟩ := Signer.sign_eq_ok h
  exact ofToken_join x.kid a claims signature

/-! ## Services -/

namespace Service

variable {s : Service} {r : Entropy} {claims : Value} {kid : Option String}
  {algorithm : Option SignatureAlgorithm} {t : SignedToken}

theorem sign_eq_ok (h : s.sign r claims kid algorithm = .ok t) :
    ∃ id x, kid.or s.defaultSigningKeyId = some id ∧ s.signers.lookup id = some x ∧
      x.sign r claims (choose algorithm s.defaults.signingAlgorithm x.preferred) = .ok t := by
  obtain ⟨x, hx, h⟩ := bind_eq_ok_iff.1 h
  obtain ⟨id, hid, hx⟩ := resolve_eq_ok_iff.1 hx
  exact ⟨id, x, hid, hx, h⟩

/-- The service of an RSA key signs all claims, with little more than the claims as a token. -/
theorem exists_sign {key : Rsa.PrivateKey} (hkey : key.Strong) (id : String) (r : Entropy)
    (claims : Value) :
    ∃ t, (ofPrivateKey id key .none).sign r claims (some id) none = .ok t ∧
      (utf8 t.compact).length ≤
        (utf8 (Signer.signingInput id .rs256 claims)).length + 1025 := by
  have hresolve : resolve (ofPrivateKey id key .none).signers .sign (some id)
      (ofPrivateKey id key .none).defaultSigningKeyId =
        .ok ⟨id, .rsa key, SignatureAlgorithm.rsa, .rs256⟩ :=
    resolve_eq_ok_iff.2 ⟨id, rfl, lookup_signers_ofPrivateKey id key .none⟩
  have hsalt : (r.salt 32).toList.length = Hash.length .sha256 := Vector.length_toList
  obtain ⟨signature, hsignature⟩ := hkey.exists_sign .fixed hsalt
    (utf8 (Signer.signingInput id .rs256 claims))
  have hsigned : (SigningKey.rsa key).sign r .rs256 (utf8 (Signer.signingInput id .rs256 claims)) =
      .ok signature := hsignature
  refine ⟨⟨Dotted.join [Signer.signingInput id .rs256 claims, Base64Url.encode signature], id,
    .rs256⟩, ?_, ?_⟩
  · have hmem : SignatureAlgorithm.rs256 ∈ SignatureAlgorithm.rsa := List.mem_cons_self
    rw [sign, hresolve, ok_bind]
    show Signer.sign _ r claims .rs256 = _
    rw [Signer.sign, if_neg (not_not_intro hmem)]
    dsimp only
    rw [hsigned]
  · have hlength := Rsa.PrivateKey.length_of_sign hsignature
    have hencoded := Base64Url.length_encodeBytes_le signature
    have hdot : (utf8 ".").length = 1 := by decide
    rw [Dotted.join_cons_cons, Dotted.join_singleton, utf8_append, utf8_append,
      Base64Url.utf8_encode, List.length_append, List.length_append, hdot]
    omega

/-- A signed token carries the id of its key and the algorithm that was chosen, in its header
too. -/
theorem token_of_sign (hbuilt : s.Built) (h : s.sign r claims kid algorithm = .ok t) :
    kid.or s.defaultSigningKeyId = some t.keyId ∧
      (∃ x, s.signers.lookup t.keyId = some x ∧
        t.algorithm = choose algorithm s.defaults.signingAlgorithm x.preferred) ∧
      SignatureHeader.ofToken t.compact = .ok ⟨.supported t.algorithm, some t.keyId⟩ := by
  obtain ⟨id, x, hid, hx, h⟩ := sign_eq_ok h
  have hheader := SignatureHeader.ofToken_of_sign h
  obtain ⟨-, signature, -, rfl⟩ := Signer.sign_eq_ok h
  have hkid : x.kid = id := kid_of_lookup_signers hbuilt hx
  refine ⟨by rw [hid, hkid], ⟨x, ?_, rfl⟩, hheader⟩
  rw [hkid]
  exact hx

/-- Every key that signs has a counterpart under the same id. -/
theorem exists_counterpart (h : s.Built) {id : String} {x : Signer}
    (hx : s.signers.lookup id = some x)
    (hrsa : ∀ k, s.ring.get? id = some k → k.Countersigned) :
    ∃ v, s.verifiers.lookup id = some v ∧ Counterpart x v := by
  obtain ⟨k, hk, hxk⟩ := (lookup_signers_eq_some_iff h).1 hx
  obtain ⟨c, hc⟩ := exists_ofJwk_of_get? h hk
  obtain ⟨-, -, -, hverifier⟩ := Capabilities.ofJwk_eq_ok_iff.1 hc
  cases hv : c.verifier with
  | none =>
    rw [hv] at hverifier
    exact absurd hverifier (Verifier.ofJwk_ne_none hxk)
  | some v =>
    rw [hv] at hverifier
    exact ⟨v, (lookup_verifiers_eq_some_iff h).2 ⟨k, hk, hverifier⟩,
      .of_ofJwk (hrsa k hk) hxk hverifier⟩

/-- How the verification of what a service signed ends, if the service is not told the key. -/
theorem verify_of_sign_eq (hbuilt : s.Built)
    (hrsa : ∀ k, s.ring.get? t.keyId = some k → k.Countersigned)
    (ht : s.sign r claims kid algorithm = .ok t) {α : Type} {d : Decoder α} {c : α}
    (hclaims : d.runBytes (utf8 claims.text) = .ok c) :
    s.verify d t.compact none =
      match RegisteredClaims.decode.runBytes (utf8 claims.text) with
      | .ok _ => .ok c
      | .error e => .error (.verificationFailed t.keyId (VerificationFault.message (.json e))) := by
  obtain ⟨id, x, -, hx, ht⟩ := sign_eq_ok ht
  obtain ⟨ha, signature, hsignature, rfl⟩ := Signer.sign_eq_ok ht
  obtain rfl : x.kid = id := kid_of_lookup_signers hbuilt hx
  obtain ⟨v, hv, hxv⟩ := exists_counterpart hbuilt hx hrsa
  rw [← hxv.algorithms_eq] at ha
  have hverify := verify_join_eq hv ha (hxv.accepts r _ _ signature hsignature) hclaims
  rwa [kid_of_lookup_verifiers hbuilt hv] at hverify

/-- What a service signed it verifies, without being told the key. -/
theorem verify_of_sign (hbuilt : s.Built)
    (hrsa : ∀ k, s.ring.get? t.keyId = some k → k.Countersigned)
    (ht : s.sign r claims kid algorithm = .ok t) {α : Type} {d : Decoder α} {c : α}
    (hclaims : d.runBytes (utf8 claims.text) = .ok c)
    (hregistered : RegisteredClaims.decode.runBytes (utf8 claims.text) = .ok ()) :
    s.verify d t.compact none = .ok c := by
  rw [verify_of_sign_eq hbuilt hrsa ht hclaims, hregistered]

end Service

end SignOn.Jose
