import SignOn.Proofs.Jose.KeyRing
import SignOn.Proofs.Jose.SharedSecret
import SignOn.Proofs.Jose.Signing

/-!
# When a service can be built, and what it can do then

The keys are looked at in the order of their ids, and the first one whose material is unsound ends
the construction. A key that passes can do what its kind and its members allow, no more and no less.
-/

namespace SignOn.Jose

open Crypto Outcome Text

/-- Lifting keeps errors too. -/
theorem lift_eq_error_iff {α : Type} {x : Except Error α} {f : Failure} :
    (liftM x : Except Failure α) = .error f ↔ ∃ e, x = .error e ∧ f = .error e := by
  cases x with
  | error e =>
    constructor
    · rintro ⟨⟩
      exact ⟨e, rfl, rfl⟩
    · rintro ⟨e, ⟨⟩, rfl⟩
      rfl
  | ok a =>
    constructor
    · rintro ⟨⟩
    · rintro ⟨e, ⟨⟩, -⟩

/-! ## Unsound material -/

/-- What the material of a key can be the reason of. -/
inductive Failure.IsAbout (kid : String) : Failure → Prop where
  | material (reason : String) : IsAbout kid (.error (.invalidKeyMaterial kid reason))
  | negativeDifference : IsAbout kid .negativeDifference

namespace Jwk

variable {k : Jwk} {e : Error}

theorem member_eq_error {name : String} {value : Option String}
    (h : k.member name value = .error e) : ∃ reason, e = .invalidKeyMaterial k.id reason := by
  cases value with
  | none => exact ⟨_, (Except.error.inj h).symm⟩
  | some s =>
    rw [member] at h
    split at h
    · cases h
    · exact ⟨_, (Except.error.inj h).symm⟩

theorem number_eq_error {name : String} {value : Option String}
    (h : k.number name value = .error e) : ∃ reason, e = .invalidKeyMaterial k.id reason := by
  rw [number] at h
  cases hmember : k.member name value with
  | error e' =>
    rw [hmember] at h
    obtain rfl := Except.error.inj h
    exact member_eq_error hmember
  | ok bs =>
    rw [hmember] at h
    cases h

theorem sharedSecret_eq_error (h : k.sharedSecret = .error e) :
    ∃ reason, e = .invalidKeyMaterial k.id reason := by
  rcases bind_eq_error_iff.1 h with h | ⟨bs, -, h⟩
  · exact member_eq_error h
  · split at h
    · exact ⟨_, (Except.error.inj h).symm⟩
    · cases h

theorem rsaPublicKey_eq_error (h : k.rsaPublicKey = .error e) :
    ∃ reason, e = .invalidKeyMaterial k.id reason := by
  rcases bind_eq_error_iff.1 h with h | ⟨n, -, h⟩
  · exact number_eq_error h
  rcases bind_eq_error_iff.1 h with h | ⟨x, -, h⟩
  · exact number_eq_error h
  split at h
  · cases h
  · exact ⟨_, (Except.error.inj h).symm⟩

theorem rsaFactors_eq_error (h : k.rsaFactors = .error e) :
    ∃ reason, e = .invalidKeyMaterial k.id reason := by
  rw [rsaFactors] at h
  split at h
  · cases h
  rcases bind_eq_error_iff.1 h with h | ⟨p, -, h⟩
  · exact number_eq_error h
  rcases bind_eq_error_iff.1 h with h | ⟨q, -, h⟩
  · exact number_eq_error h
  cases h

/-- Lifted, an error about the material of a key is a failure about it. -/
theorem isAbout_of_lift {α : Type} {x : Except Error α} {kid : String} {f : Failure}
    (hx : ∀ e, x = .error e → ∃ reason, e = .invalidKeyMaterial kid reason)
    (h : (liftM x : Except Failure α) = .error f) : f.IsAbout kid := by
  obtain ⟨e, he, rfl⟩ := lift_eq_error_iff.1 h
  obtain ⟨reason, rfl⟩ := hx e he
  exact .material reason

theorem rsaPrivateKey?_eq_error {f : Failure} (h : k.rsaPrivateKey? = .error f) :
    f.IsAbout k.id := by
  rw [rsaPrivateKey?] at h
  split at h
  · cases h
  rcases bind_eq_error_iff.1 h with h | ⟨n, -, h⟩
  · exact isAbout_of_lift (fun _ ↦ number_eq_error) h
  rcases bind_eq_error_iff.1 h with h | ⟨x, -, h⟩
  · exact isAbout_of_lift (fun _ ↦ number_eq_error) h
  rcases bind_eq_error_iff.1 h with h | ⟨d, -, h⟩
  · exact isAbout_of_lift (fun _ ↦ number_eq_error) h
  rcases bind_eq_error_iff.1 h with h | ⟨factors, -, h⟩
  · exact isAbout_of_lift (fun _ ↦ rsaFactors_eq_error) h
  split at h
  · cases h
  · obtain rfl := Except.error.inj h
    exact .material _
  · obtain rfl := Except.error.inj h
    exact .negativeDifference

/-- There is a private key exactly if there is a private exponent. -/
theorem rsaPrivateKey?_isSome {key : Option Rsa.PrivateKey} (h : k.rsaPrivateKey? = .ok key) :
    key.isSome ↔ k.secret.d.isSome := by
  rw [rsaPrivateKey?] at h
  split at h
  · next hd =>
    obtain rfl := Except.ok.inj h
    rw [hd]
    simp
  · next hd =>
    obtain ⟨n, -, h⟩ := bind_eq_ok_iff.1 h
    obtain ⟨x, -, h⟩ := bind_eq_ok_iff.1 h
    obtain ⟨d, -, h⟩ := bind_eq_ok_iff.1 h
    obtain ⟨factors, -, h⟩ := bind_eq_ok_iff.1 h
    split at h
    · obtain rfl := Except.ok.inj h
      exact ⟨fun _ ↦ Option.isSome_iff_ne_none.2 hd, fun _ ↦ rfl⟩
    · cases h
    · cases h

/-- The key has a shared secret of such a length. -/
def HasSecret (k : Jwk) (P : Nat → Prop) : Prop :=
  k.kind = .octets ∧ ∃ secret, k.sharedSecret = .ok secret ∧ P secret.length

theorem hasSecret_iff (hk : k.kind = .octets) {secret : Bytes} (h : k.sharedSecret = .ok secret)
    {P : Nat → Prop} : k.HasSecret P ↔ P secret.length := by
  constructor
  · rintro ⟨-, secret', h', hP⟩
    obtain rfl := Except.ok.inj (h.symm.trans h')
    exact hP
  · exact fun hP ↦ ⟨hk, secret, h, hP⟩

theorem isPrivate_of_hasSecret {P : Nat → Prop} (h : k.HasSecret P) : k.isPrivate = true := by
  obtain ⟨hk, secret, hsecret, -⟩ := h
  obtain ⟨bs, hmember, -⟩ := bind_eq_ok_iff.1 hsecret
  rw [isPrivate, hk]
  cases hk : k.secret.k with
  | some s => rfl
  | none =>
    rw [hk] at hmember
    cases hmember

theorem isPrivate_of_rsa (hk : k.kind = .rsa) (hd : k.secret.d.isSome) : k.isPrivate = true := by
  rw [isPrivate, hk]
  exact hd

/-- One of the capabilities cannot be made from the key. -/
def Unsound (kid : String) (k : Jwk) : Prop :=
  (∃ e, Encrypter.ofJwk kid k = .error e) ∨ (∃ f, Decrypter.ofJwk kid k = .error f) ∨
    (∃ f, Signer.ofJwk kid k = .error f) ∨ ∃ e, Verifier.ofJwk kid k = .error e

end Jwk

/-! ## What a key can do -/

theorem ContentCipher.isSome_ofKeyLength? {n : Nat} :
    (ofKeyLength? n).isSome ↔ n = 16 ∨ n = 32 := by
  rw [Option.isSome_iff_exists]
  constructor
  · rintro ⟨m, hm⟩
    rw [← ofKeyLength?_eq_some_iff.1 hm]
    cases m <;> simp [keyLength]
  · rintro (rfl | rfl)
    · exact ⟨.a128gcm, rfl⟩
    · exact ⟨.a256gcm, rfl⟩

theorem SignatureAlgorithm.forSecretLength_ne_nil_iff {n : Nat} :
    forSecretLength n ≠ [] ↔ 32 ≤ n := by
  constructor
  · intro hne
    obtain ⟨a, ha⟩ := List.exists_mem_of_ne_nil _ hne
    obtain ⟨-, least, hleast, hle⟩ := mem_forSecretLength.1 ha
    refine le_trans ?_ hle
    cases a <;> simp_all [minSecretLength?] <;> omega
  · intro h
    have hmem : hs256 ∈ forSecretLength n :=
      mem_forSecretLength.2 ⟨List.mem_cons_self, 32, rfl, h⟩
    exact List.ne_nil_of_mem hmem

theorem Signer.isSome_make? {kid : String} {k : Jwk} {key : SigningKey}
    {listed : List SignatureAlgorithm} : (make? kid k key listed).isSome ↔ listed ≠ [] := by
  rw [make?, Option.isSome_map]
  constructor
  · intro h
    obtain ⟨a, ha⟩ := Option.isSome_iff_exists.1 h
    exact List.ne_nil_of_mem (preference?_mem ha)
  · intro hne
    have hfallback : (preference?.fallback listed).isSome := by
      rw [preference?.fallback]
      split
      · rwa [List.getLast?_isSome]
      · rwa [List.isSome_head?]
    rw [preference?]
    split
    · split
      · rfl
      · exact hfallback
    · exact hfallback

section

variable {kid : String} {k : Jwk}

/-- A key without an encrypter is of another kind, or a secret of another length. -/
theorem Encrypter.ofJwk_eq_ok {x : Option Encrypter} (hx : ofJwk kid k = .ok x) :
    (k.kind = .rsa ∧ ∃ key, x = some (.rsa kid key)) ∨
    (k.kind = .octets ∧ ∃ secret, k.sharedSecret = .ok secret ∧
      x = (ContentCipher.ofKeyLength? secret.length).map (.direct kid secret)) ∨
    (k.kind ≠ .rsa ∧ k.kind ≠ .octets ∧ x = none) := by
  rw [ofJwk] at hx
  cases hk : k.kind with
  | rsa =>
    rw [hk] at hx
    obtain ⟨key, -, hx⟩ := bind_eq_ok_iff.1 hx
    exact .inl ⟨rfl, key, (Except.ok.inj hx).symm⟩
  | octets =>
    rw [hk] at hx
    obtain ⟨secret, hsecret, hx⟩ := bind_eq_ok_iff.1 hx
    exact .inr (.inl ⟨rfl, secret, hsecret, (Except.ok.inj hx).symm⟩)
  | ellipticCurve | octetPair | other =>
    rw [hk] at hx
    exact .inr (.inr ⟨KeyKind.noConfusion, KeyKind.noConfusion, (Except.ok.inj hx).symm⟩)

theorem Encrypter.isSome_ofJwk {x : Option Encrypter} (h : Encrypter.ofJwk kid k = .ok x) :
    x.isSome ↔ k.kind = .rsa ∨ k.HasSecret (fun n ↦ n = 16 ∨ n = 32) := by
  rcases ofJwk_eq_ok h with ⟨hk, key, rfl⟩ | ⟨hk, secret, hsecret, rfl⟩ | ⟨hrsa, hoctets, rfl⟩
  · simp [hk]
  · simp [hk, Jwk.hasSecret_iff hk hsecret, ContentCipher.isSome_ofKeyLength?]
  · simp [Jwk.HasSecret, hrsa, hoctets]

theorem Decrypter.isSome_ofJwk {x : Option Decrypter} (h : Decrypter.ofJwk kid k = .ok x) :
    x.isSome ↔ k.kind = .rsa ∧ k.secret.d.isSome ∨ k.HasSecret (fun n ↦ n = 16 ∨ n = 32) := by
  rw [Decrypter.ofJwk] at h
  cases hk : k.kind with
  | rsa =>
    rw [hk] at h
    obtain ⟨key, hkey, h⟩ := bind_eq_ok_iff.1 h
    obtain rfl := Except.ok.inj h
    rw [Option.isSome_map, Jwk.rsaPrivateKey?_isSome hkey]
    simp [Jwk.HasSecret, hk]
  | octets =>
    rw [hk] at h
    obtain ⟨secret, hsecret, h⟩ := bind_eq_ok_iff.1 h
    obtain rfl := Except.ok.inj h
    rw [Jwk.hasSecret_iff hk (lift_eq_ok_iff.1 hsecret), Option.isSome_map,
      ContentCipher.isSome_ofKeyLength?]
    simp
  | ellipticCurve | octetPair | other =>
    rw [hk] at h
    obtain rfl := Except.ok.inj h
    simp [Jwk.HasSecret, hk]

theorem Signer.isSome_ofJwk {x : Option Signer} (h : Signer.ofJwk kid k = .ok x) :
    x.isSome ↔ k.kind = .rsa ∧ k.secret.d.isSome ∨ k.HasSecret (fun n ↦ 32 ≤ n) := by
  rw [Signer.ofJwk] at h
  cases hk : k.kind with
  | rsa =>
    rw [hk] at h
    obtain ⟨key, hkey, h⟩ := bind_eq_ok_iff.1 h
    obtain rfl := Except.ok.inj h
    have hmake (key : Rsa.PrivateKey) :
        (make? kid k (.rsa key) SignatureAlgorithm.rsa).isSome :=
      isSome_make?.2 (List.cons_ne_nil _ _)
    rw [← Jwk.rsaPrivateKey?_isSome hkey]
    cases key <;> simp [Jwk.HasSecret, hk, hmake]
  | octets =>
    rw [hk] at h
    obtain ⟨secret, hsecret, h⟩ := bind_eq_ok_iff.1 h
    obtain rfl := Except.ok.inj h
    rw [Jwk.hasSecret_iff hk (lift_eq_ok_iff.1 hsecret), isSome_make?,
      SignatureAlgorithm.forSecretLength_ne_nil_iff]
    simp
  | ellipticCurve | octetPair | other =>
    rw [hk] at h
    obtain rfl := Except.ok.inj h
    simp [Jwk.HasSecret, hk]

/-- A key without a verifier is of another kind, or a secret that is too short. -/
theorem Verifier.ofJwk_eq_ok {x : Option Verifier} (hx : ofJwk kid k = .ok x) :
    (k.kind = .rsa ∧ ∃ key, x = some ⟨kid, .rsa key, SignatureAlgorithm.rsa⟩) ∨
    (k.kind = .octets ∧ ∃ secret, k.sharedSecret = .ok secret ∧
      (SignatureAlgorithm.forSecretLength secret.length = [] ∧ x = none ∨
        SignatureAlgorithm.forSecretLength secret.length ≠ [] ∧
          x = some ⟨kid, .secret secret, SignatureAlgorithm.forSecretLength secret.length⟩)) ∨
    (k.kind ≠ .rsa ∧ k.kind ≠ .octets ∧ x = none) := by
  rw [ofJwk] at hx
  cases hk : k.kind with
  | rsa =>
    rw [hk] at hx
    obtain ⟨key, -, hx⟩ := bind_eq_ok_iff.1 hx
    obtain ⟨n, -, hx⟩ := bind_eq_ok_iff.1 hx
    obtain ⟨e, -, hx⟩ := bind_eq_ok_iff.1 hx
    exact .inl ⟨rfl, _, (Except.ok.inj hx).symm⟩
  | octets =>
    rw [hk] at hx
    obtain ⟨secret, hsecret, hx⟩ := bind_eq_ok_iff.1 hx
    refine .inr (.inl ⟨rfl, secret, hsecret, ?_⟩)
    split at hx
    · next hnil => exact .inl ⟨hnil, (Except.ok.inj hx).symm⟩
    · next hlisted => exact .inr ⟨hlisted, (Except.ok.inj hx).symm⟩
  | ellipticCurve | octetPair | other =>
    rw [hk] at hx
    exact .inr (.inr ⟨KeyKind.noConfusion, KeyKind.noConfusion, (Except.ok.inj hx).symm⟩)

theorem Verifier.isSome_ofJwk {x : Option Verifier} (h : Verifier.ofJwk kid k = .ok x) :
    x.isSome ↔ k.kind = .rsa ∨ k.HasSecret (fun n ↦ 32 ≤ n) := by
  rcases ofJwk_eq_ok h with
    ⟨hk, key, rfl⟩ | ⟨hk, secret, hsecret, ⟨hnil, rfl⟩ | ⟨hlisted, rfl⟩⟩ | ⟨hrsa, hoctets, rfl⟩
  · simp [hk]
  · have hshort : ¬32 ≤ secret.length := fun hle ↦
      SignatureAlgorithm.forSecretLength_ne_nil_iff.2 hle hnil
    simpa [hk, Jwk.hasSecret_iff hk hsecret] using hshort
  · have hlong := SignatureAlgorithm.forSecretLength_ne_nil_iff.1 hlisted
    simpa [hk, Jwk.hasSecret_iff hk hsecret] using hlong
  · simp [Jwk.HasSecret, hrsa, hoctets]

/-! ## Keys that end the construction -/

theorem Verifier.strictMember_eq_error {value : Option String} {e : Error}
    (h : strictMember kid value = .error e) : ∃ reason, e = .invalidKeyMaterial kid reason := by
  cases value with
  | none => exact ⟨_, (Except.error.inj h).symm⟩
  | some s =>
    rw [strictMember] at h
    split at h
    · cases h
    · exact ⟨_, (Except.error.inj h).symm⟩

theorem Encrypter.ofJwk_eq_error {e : Error} (hid : k.id = kid)
    (h : Encrypter.ofJwk kid k = .error e) :
    (k.kind = .rsa ∨ k.kind = .octets) ∧ ∃ reason, e = .invalidKeyMaterial kid reason := by
  subst hid
  rw [Encrypter.ofJwk] at h
  cases hk : k.kind with
  | rsa =>
    rw [hk] at h
    rcases bind_eq_error_iff.1 h with h | ⟨key, -, h⟩
    · exact ⟨.inl rfl, Jwk.rsaPublicKey_eq_error h⟩
    · cases h
  | octets =>
    rw [hk] at h
    rcases bind_eq_error_iff.1 h with h | ⟨secret, -, h⟩
    · exact ⟨.inr rfl, Jwk.sharedSecret_eq_error h⟩
    · cases h
  | ellipticCurve | octetPair | other =>
    rw [hk] at h
    cases h

/-- What is made of the secret half of a key: of the private key of an RSA key, or of a shared
secret. -/
def Jwk.withSecret {α : Type} (k : Jwk) (ofKey : Option Rsa.PrivateKey → Option α)
    (ofSecret : Bytes → Option α) : Except Failure (Option α) :=
  match k.kind with
  | .rsa => ofKey <$> k.rsaPrivateKey?
  | .octets => ofSecret <$> liftM k.sharedSecret
  | .ellipticCurve | .octetPair | .other _ => .ok none

theorem Decrypter.ofJwk_eq_withSecret : Decrypter.ofJwk kid k =
    k.withSecret (Option.map (.rsa kid)) fun secret ↦
      (ContentCipher.ofKeyLength? secret.length).map (.direct kid secret) := by
  rw [Decrypter.ofJwk, Jwk.withSecret]
  cases k.kind <;> rfl

theorem Signer.ofJwk_eq_withSecret : Signer.ofJwk kid k =
    k.withSecret (fun key ↦ key.bind fun key ↦ make? kid k (.rsa key) SignatureAlgorithm.rsa)
      fun secret ↦ make? kid k (.secret secret)
        (SignatureAlgorithm.forSecretLength secret.length) := by
  rw [Signer.ofJwk, Jwk.withSecret]
  cases k.kind <;> rfl

theorem Jwk.withSecret_eq_error_iff {α : Type} {ofKey : Option Rsa.PrivateKey → Option α}
    {ofSecret : Bytes → Option α} {f : Failure} :
    k.withSecret ofKey ofSecret = .error f ↔
      k.kind = .rsa ∧ k.rsaPrivateKey? = .error f ∨
      k.kind = .octets ∧ (liftM k.sharedSecret : Except Failure Bytes) = .error f := by
  rw [withSecret]
  cases k.kind with
  | rsa => cases k.rsaPrivateKey? <;> simp
  | octets => cases (liftM k.sharedSecret : Except Failure Bytes) <;> simp
  | ellipticCurve | octetPair | other => simp

theorem Jwk.withSecret_eq_error {α : Type} {ofKey : Option Rsa.PrivateKey → Option α}
    {ofSecret : Bytes → Option α} {f : Failure} (hid : k.id = kid)
    (h : k.withSecret ofKey ofSecret = .error f) :
    (k.kind = .rsa ∨ k.kind = .octets) ∧ f.IsAbout kid := by
  subst hid
  rcases withSecret_eq_error_iff.1 h with ⟨hk, h⟩ | ⟨hk, h⟩
  · exact ⟨.inl hk, rsaPrivateKey?_eq_error h⟩
  · exact ⟨.inr hk, isAbout_of_lift (fun _ ↦ sharedSecret_eq_error) h⟩

theorem Decrypter.ofJwk_eq_error {f : Failure} (hid : k.id = kid)
    (h : Decrypter.ofJwk kid k = .error f) :
    (k.kind = .rsa ∨ k.kind = .octets) ∧ f.IsAbout kid :=
  Jwk.withSecret_eq_error hid (Decrypter.ofJwk_eq_withSecret.symm.trans h)

theorem Signer.ofJwk_eq_error {f : Failure} (hid : k.id = kid)
    (h : Signer.ofJwk kid k = .error f) :
    (k.kind = .rsa ∨ k.kind = .octets) ∧ f.IsAbout kid :=
  Jwk.withSecret_eq_error hid (Signer.ofJwk_eq_withSecret.symm.trans h)

theorem Verifier.ofJwk_eq_error {e : Error} (hid : k.id = kid)
    (h : Verifier.ofJwk kid k = .error e) :
    (k.kind = .rsa ∨ k.kind = .octets) ∧ ∃ reason, e = .invalidKeyMaterial kid reason := by
  subst hid
  rw [Verifier.ofJwk] at h
  cases hk : k.kind with
  | rsa =>
    refine ⟨.inl rfl, ?_⟩
    rw [hk] at h
    rcases bind_eq_error_iff.1 h with h | ⟨key, -, h⟩
    · exact Jwk.rsaPublicKey_eq_error h
    rcases bind_eq_error_iff.1 h with h | ⟨n, -, h⟩
    · exact strictMember_eq_error h
    rcases bind_eq_error_iff.1 h with h | ⟨e', -, h⟩
    · exact strictMember_eq_error h
    cases h
  | octets =>
    rw [hk] at h
    rcases bind_eq_error_iff.1 h with h | ⟨secret, -, h⟩
    · exact ⟨.inr rfl, Jwk.sharedSecret_eq_error h⟩
    · split at h <;> cases h
  | ellipticCurve | octetPair | other =>
    rw [hk] at h
    cases h

namespace Capabilities

theorem ofJwk_eq_error {f : Failure} (h : ofJwk kid k = .error f) :
    (∃ e, Encrypter.ofJwk kid k = .error e ∧ f = .error e) ∨ Decrypter.ofJwk kid k = .error f ∨
      Signer.ofJwk kid k = .error f ∨ ∃ e, Verifier.ofJwk kid k = .error e ∧ f = .error e := by
  rcases bind_eq_error_iff.1 h with h | ⟨x, -, h⟩
  · exact .inl (lift_eq_error_iff.1 h)
  rcases bind_eq_error_iff.1 h with h | ⟨y, -, h⟩
  · exact .inr (.inl h)
  rcases bind_eq_error_iff.1 h with h | ⟨z, -, h⟩
  · exact .inr (.inr (.inl h))
  rcases bind_eq_error_iff.1 h with h | ⟨v, -, h⟩
  · exact .inr (.inr (.inr (lift_eq_error_iff.1 h)))
  cases h

theorem exists_eq_error_iff : (∃ f, ofJwk kid k = .error f) ↔ k.Unsound kid := by
  constructor
  · rintro ⟨f, h⟩
    rcases ofJwk_eq_error h with ⟨e, h, -⟩ | h | h | ⟨e, h, -⟩
    · exact .inl ⟨e, h⟩
    · exact .inr (.inl ⟨f, h⟩)
    · exact .inr (.inr (.inl ⟨f, h⟩))
    · exact .inr (.inr (.inr ⟨e, h⟩))
  · intro hunsound
    cases h : ofJwk kid k with
    | error f => exact ⟨f, rfl⟩
    | ok c =>
      obtain ⟨hx, hy, hz, hv⟩ := ofJwk_eq_ok_iff.1 h
      rw [Jwk.Unsound, hx, hy, hz, hv] at hunsound
      simp at hunsound

/-- What ends the construction is about the key, which is an RSA key or a shared secret. -/
theorem isAbout_of_ofJwk (hid : k.id = kid) {f : Failure} (h : ofJwk kid k = .error f) :
    (k.kind = .rsa ∨ k.kind = .octets) ∧ f.IsAbout kid := by
  rcases ofJwk_eq_error h with ⟨e, he, rfl⟩ | hf | hf | ⟨e, he, rfl⟩
  · obtain ⟨hk, reason, rfl⟩ := Encrypter.ofJwk_eq_error hid he
    exact ⟨hk, .material reason⟩
  · exact Decrypter.ofJwk_eq_error hid hf
  · exact Signer.ofJwk_eq_error hid hf
  · obtain ⟨hk, reason, rfl⟩ := Verifier.ofJwk_eq_error hid he
    exact ⟨hk, .material reason⟩

/-- Keys of other kinds can do nothing here, but they are sound. -/
theorem ofJwk_of_other (hrsa : k.kind ≠ .rsa) (hoctets : k.kind ≠ .octets) :
    ofJwk kid k = .ok ⟨none, none, none, none⟩ := by
  refine ofJwk_eq_ok_iff.2 ?_
  rw [Encrypter.ofJwk, Decrypter.ofJwk, Signer.ofJwk, Verifier.ofJwk]
  cases hk : k.kind with
  | rsa => exact absurd hk hrsa
  | octets => exact absurd hk hoctets
  | ellipticCurve | octetPair | other => exact ⟨rfl, rfl, rfl, rfl⟩

/-- The construction fails with the first key that fails. -/
theorem ofEntries_eq_error_iff {entries : List (String × Jwk)} {f : Failure} :
    ofEntries entries = .error f ↔ ∃ before kid k after, entries = before ++ (kid, k) :: after ∧
      (∀ x ∈ before, ∃ c, ofJwk x.1 x.2 = .ok c) ∧ ofJwk kid k = .error f := by
  induction entries with
  | nil => simp [ofEntries]
  | cons x entries ih =>
    obtain ⟨kid, k⟩ := x
    rw [ofEntries]
    constructor
    · intro h
      rcases bind_eq_error_iff.1 h with h | ⟨c, hc, h⟩
      · exact ⟨[], kid, k, entries, rfl, by simp, h⟩
      rcases bind_eq_error_iff.1 h with h | ⟨cs, -, h⟩
      · obtain ⟨before, kid', k', after, rfl, hbefore, hk'⟩ := ih.1 h
        refine ⟨(kid, k) :: before, kid', k', after, rfl, ?_, hk'⟩
        exact List.forall_mem_cons.2 ⟨⟨c, hc⟩, hbefore⟩
      · cases h
    · rintro ⟨before, kid', k', after, hentries, hbefore, hk'⟩
      cases before with
      | nil =>
        obtain ⟨⟨⟩, rfl⟩ := List.cons.inj hentries
        rw [hk', error_bind]
      | cons x before =>
        obtain ⟨rfl, rfl⟩ := List.cons.inj hentries
        obtain ⟨⟨c, hc⟩, hbefore⟩ := List.forall_mem_cons.1 hbefore
        rw [hc, ok_bind, ih.2 ⟨before, kid', k', after, rfl, hbefore, hk'⟩, error_bind]

end Capabilities

end

/-! ## Services -/

namespace Service

variable {ring : KeyRing} {defaults : Defaults} {s : Service}

theorem exists_build (h : ∀ x ∈ ring.entries, ¬x.2.Unsound x.1) :
    ∃ s, build ring defaults = .ok s := by
  cases hentries : Capabilities.ofEntries ring.entries with
  | ok cs => exact ⟨⟨ring, defaults, cs⟩, by rw [build, hentries, ok_bind, pure_eq]⟩
  | error f =>
    obtain ⟨before, kid, k, after, heq, -, hk⟩ := Capabilities.ofEntries_eq_error_iff.1 hentries
    have hmem : (kid, k) ∈ ring.entries := by simp [heq]
    exact absurd (Capabilities.exists_eq_error_iff.1 ⟨f, hk⟩) (h _ hmem)

/-- A construction that fails is ended by the unsound key with the smallest id. -/
theorem build_eq_error {f : Failure} (h : build ring defaults = .error f) :
    ∃ kid k, ring.get? kid = some k ∧ k.Unsound kid ∧
      (∀ x ∈ ring.entries, x.2.Unsound x.1 → kid ≤ x.1) ∧
      (k.kind = .rsa ∨ k.kind = .octets) ∧ f.IsAbout kid := by
  rcases bind_eq_error_iff.1 h with h | ⟨cs, -, h⟩
  · obtain ⟨before, kid, k, after, heq, hbefore, hk⟩ := Capabilities.ofEntries_eq_error_iff.1 h
    have hmem : (kid, k) ∈ ring.entries := by simp [heq]
    have hascending : ((before ++ (kid, k) :: after).map Prod.fst).Pairwise (· < ·) := by
      rw [← heq]
      exact ring.ascending
    refine ⟨kid, k, KeyRing.get?_of_mem hmem, Capabilities.exists_eq_error_iff.1 ⟨f, hk⟩, ?_,
      Capabilities.isAbout_of_ofJwk (KeyRing.id_of_mem hmem) hk⟩
    intro x hx hunsound
    rw [heq, List.mem_append, List.mem_cons] at hx
    rcases hx with hx | rfl | hx
    · obtain ⟨c, hc⟩ := hbefore x hx
      obtain ⟨f', hf'⟩ := Capabilities.exists_eq_error_iff.2 hunsound
      rw [hc] at hf'
      cases hf'
    · exact String.le_refl _
    · rw [List.map_append, List.map_cons, List.pairwise_append, List.pairwise_cons] at hascending
      exact Std.le_of_lt (hascending.2.1.1 x.1 (List.mem_map_of_mem hx))
  · cases h

section

variable {α : Type} {what : Capabilities → Option α}

/-- The keys that are able to do something are those of the ring with a property, if this is the
property that makes the capability possible. -/
theorem mem_keys_able_iff (h : s.Built) {P : Jwk → Prop}
    (hP : ∀ kid k c, Capabilities.ofJwk kid k = .ok c → ((what c).isSome ↔ P k)) (id : String) :
    id ∈ (s.able what).map Prod.fst ↔ ∃ k, s.ring.get? id = some k ∧ P k := by
  have hlookup : id ∈ (s.able what).map Prod.fst ↔ ∃ a, (s.able what).lookup id = some a := by
    rw [← Keyed.isSome_lookup_iff, Option.isSome_iff_exists]
  simp only [hlookup, lookup_able h, Option.bind_eq_some_iff, lookup_capabilities_eq_some_iff h]
  constructor
  · rintro ⟨a, c, ⟨k, hk, hc⟩, ha⟩
    exact ⟨k, hk, (hP id k c hc).1 (Option.isSome_of_eq_some ha)⟩
  · rintro ⟨k, hk, hPk⟩
    obtain ⟨c, hc⟩ := exists_ofJwk_of_get? h hk
    obtain ⟨a, ha⟩ := Option.isSome_iff_exists.1 ((hP id k c hc).2 hPk)
    exact ⟨a, c, ⟨k, hk, hc⟩, ha⟩

theorem lookup_of_mem_able (h : s.Built) {x : String × α} (hx : x ∈ s.able what) :
    (s.able what).lookup x.1 = some x.2 := by
  refine Keyed.lookup_of_mem (.sublist (Keyed.keys_filterMap_sublist what s.capabilities) ?_) hx
  rw [Capabilities.keys_ofEntries h]
  exact s.ring.ascending.nodup

end

/-- What a service can do with the keys of a ring. -/
structure Equipped (ring : KeyRing) (s : Service) : Prop where
  mem_encrypters_iff : ∀ id, id ∈ s.encrypters.map Prod.fst ↔
    ∃ k, ring.get? id = some k ∧ (k.kind = .rsa ∨ k.HasSecret fun n ↦ n = 16 ∨ n = 32)
  mem_decrypters_iff : ∀ id, id ∈ s.decrypters.map Prod.fst ↔
    ∃ k, ring.get? id = some k ∧
      (k.kind = .rsa ∧ k.secret.d.isSome ∨ k.HasSecret fun n ↦ n = 16 ∨ n = 32)
  mem_signers_iff : ∀ id, id ∈ s.signers.map Prod.fst ↔
    ∃ k, ring.get? id = some k ∧
      (k.kind = .rsa ∧ k.secret.d.isSome ∨ k.HasSecret fun n ↦ 32 ≤ n)
  mem_verifiers_iff : ∀ id, id ∈ s.verifiers.map Prod.fst ↔
    ∃ k, ring.get? id = some k ∧ (k.kind = .rsa ∨ k.HasSecret fun n ↦ 32 ≤ n)
  encrypters_subset : s.encrypters.map Prod.fst ⊆ ring.ids
  verifiers_subset : s.verifiers.map Prod.fst ⊆ ring.ids
  decrypters_subset : s.decrypters.map Prod.fst ⊆ s.encrypters.map Prod.fst
  signers_subset : s.signers.map Prod.fst ⊆ s.verifiers.map Prod.fst
  isPrivate : ∀ id k, id ∈ s.decrypters.map Prod.fst ∨ id ∈ s.signers.map Prod.fst →
    ring.get? id = some k → k.isPrivate = true
  kid_encrypters : ∀ x ∈ s.encrypters, x.2.kid = x.1
  kid_decrypters : ∀ x ∈ s.decrypters, x.2.kid = x.1
  kid_signers : ∀ x ∈ s.signers, x.2.kid = x.1
  kid_verifiers : ∀ x ∈ s.verifiers, x.2.kid = x.1

theorem Built.equipped (h : s.Built) : s.Equipped s.ring := by
  have hencrypters (id : String) := mem_keys_able_iff h (fun kid k c hc ↦
    Encrypter.isSome_ofJwk (Capabilities.ofJwk_eq_ok_iff.1 hc).1) id
  have hdecrypters (id : String) := mem_keys_able_iff h (fun kid k c hc ↦
    Decrypter.isSome_ofJwk (Capabilities.ofJwk_eq_ok_iff.1 hc).2.1) id
  have hsigners (id : String) := mem_keys_able_iff h (fun kid k c hc ↦
    Signer.isSome_ofJwk (Capabilities.ofJwk_eq_ok_iff.1 hc).2.2.1) id
  have hverifiers (id : String) := mem_keys_able_iff h (fun kid k c hc ↦
    Verifier.isSome_ofJwk (Capabilities.ofJwk_eq_ok_iff.1 hc).2.2.2) id
  refine ⟨hencrypters, hdecrypters, hsigners, hverifiers, keys_able_subset h _,
    keys_able_subset h _, fun id hid ↦ ?_, fun id hid ↦ ?_, fun id k hid hk ↦ ?_,
    fun x hx ↦ kid_of_lookup_encrypters h (lookup_of_mem_able h hx),
    fun x hx ↦ kid_of_lookup_decrypters h (lookup_of_mem_able h hx),
    fun x hx ↦ kid_of_lookup_signers h (lookup_of_mem_able h hx),
    fun x hx ↦ kid_of_lookup_verifiers h (lookup_of_mem_able h hx)⟩
  · obtain ⟨k, hk, hP⟩ := (hdecrypters id).1 hid
    exact (hencrypters id).2 ⟨k, hk, hP.imp_left And.left⟩
  · obtain ⟨k, hk, hP⟩ := (hsigners id).1 hid
    exact (hverifiers id).2 ⟨k, hk, hP.imp_left And.left⟩
  · have hprivate {P : Nat → Prop} {k' : Jwk} (hk' : s.ring.get? id = some k')
        (hP : k'.kind = .rsa ∧ k'.secret.d.isSome ∨ k'.HasSecret P) : k.isPrivate = true := by
      obtain rfl : k' = k := Option.some.inj (hk'.symm.trans hk)
      rcases hP with ⟨hrsa, hd⟩ | hsecret
      · exact Jwk.isPrivate_of_rsa hrsa hd
      · exact Jwk.isPrivate_of_hasSecret hsecret
    rcases hid with hid | hid
    · obtain ⟨k', hk', hP⟩ := (hdecrypters id).1 hid
      exact hprivate hk' hP
    · obtain ⟨k', hk', hP⟩ := (hsigners id).1 hid
      exact hprivate hk' hP

/-- A service is built from every ring whose keys are sound. Otherwise the unsound key with the
smallest id ends the construction with an error about its material; it is an RSA key or a shared
secret, since keys of other kinds are sound. A service that was built can do what its keys allow. -/
theorem build_outcome (ring : KeyRing) (defaults : Defaults) :
    ((∀ x ∈ ring.entries, ¬x.2.Unsound x.1) → ∃ s, build ring defaults = .ok s) ∧
    (∀ f, build ring defaults = .error f → ∃ kid k, ring.get? kid = some k ∧ k.Unsound kid ∧
      (∀ x ∈ ring.entries, x.2.Unsound x.1 → kid ≤ x.1) ∧ (k.kind = .rsa ∨ k.kind = .octets) ∧
      ∀ e, f = .error e → ∃ reason, e = .invalidKeyMaterial kid reason) ∧
    (∀ kid k, Jwk.kind k ≠ .rsa → Jwk.kind k ≠ .octets → ¬k.Unsound kid) ∧
    (∀ s, build ring defaults = .ok s → s.ring = ring ∧ s.Equipped ring) := by
  refine ⟨exists_build, fun f h ↦ ?_, fun kid k hrsa hoctets hunsound ↦ ?_, fun s h ↦ ?_⟩
  · obtain ⟨kid, k, hk, hunsound, hleast, hkind, habout⟩ := build_eq_error h
    refine ⟨kid, k, hk, hunsound, hleast, hkind, ?_⟩
    rintro e rfl
    cases habout with
    | material reason => exact ⟨reason, rfl⟩
  · obtain ⟨f, hf⟩ := Capabilities.exists_eq_error_iff.2 hunsound
    rw [Capabilities.ofJwk_of_other hrsa hoctets] at hf
    cases hf
  · obtain ⟨rfl, -, hbuilt⟩ := of_build h
    exact ⟨rfl, hbuilt.equipped⟩

/-- A secret of zeros is sound and signs; an empty one is named as the reason of the failure. -/
theorem build_outcome_sample :
    (∃ s, build (.single "a" (.ofSecret "a" (List.replicate 32 0))) .none = .ok s ∧
      "a" ∈ s.signers.map Prod.fst) ∧
    ∃ f reason, build (.single "a" (.ofSecret "a" [])) .none = .error f ∧
      f = .error (.invalidKeyMaterial "a" reason) := by
  have hlength : (List.replicate 32 (0 : UInt8)).length = 32 := List.length_replicate
  have hsecret := Jwk.sharedSecret_ofSecret "a" (List.ne_nil_of_length_eq_add_one hlength)
  constructor
  · have hs := build_ofSecret "a" hlength .none
    obtain ⟨-, -, -, hequipped⟩ :=
      build_outcome (.single "a" (.ofSecret "a" (List.replicate 32 0))) .none
    refine ⟨_, hs, ((hequipped _ hs).2.mem_signers_iff "a").2 ⟨_, rfl, .inr ⟨rfl, _, hsecret, ?_⟩⟩⟩
    exact hlength.ge
  · have hf : build (.single "a" (.ofSecret "a" [])) .none =
        .error (.error (.invalidKeyMaterial "a" "empty 'k'")) := rfl
    obtain ⟨-, hfailure, -, -⟩ := build_outcome (.single "a" (.ofSecret "a" [])) .none
    obtain ⟨kid, k, hk, -, -, -, hreason⟩ := hfailure _ hf
    obtain ⟨rfl, -⟩ := KeyRing.get?_single_eq_some_iff.1 hk
    obtain ⟨reason, hreason⟩ := hreason _ rfl
    exact ⟨_, reason, hf, congrArg _ hreason⟩

end Service

end SignOn.Jose
