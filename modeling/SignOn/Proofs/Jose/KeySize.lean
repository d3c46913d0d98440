import SignOn.Proofs.Crypto.Rsa.Size
import SignOn.Proofs.Jose.Construction
import SignOn.Proofs.Jose.Encryption

/-!
# What the size of an RSA key allows

An RSA key is given an encrypter whatever the size of its modulus, and a signer as soon as it has a
private exponent; both list the same algorithms for every key. Whether they do what they list is
then a question of the size: a content key is only wrapped by a modulus that has room for the
padding too, and only factors of some lengths are signed with.
-/

namespace SignOn.Jose

open Crypto Json Outcome Text

/-! ## Encrypters -/

namespace Encrypter

variable (kid : String) {pub : Rsa.PublicKey} (r : Entropy) {plaintext : Bytes}
  {m : ContentCipher} (contentType : Option String)

theorem encrypt_rsa_of_lt (hsize : pub.size < m.keyLength + 66) (plaintext : Bytes) :
    (Encrypter.rsa kid pub).encrypt r plaintext .rsaOaep256 m contentType =
      .error (.encryptionFailed kid "message too long") := by
  have hlength : (r.contentKey m.keyLength).toList.length = m.keyLength := Vector.length_toList
  have hpadding : 2 * Rsa.Oaep.hash.length + 2 = 66 := rfl
  have hkey : (Encrypter.rsa kid pub).contentKey r m =
      .error (.encryptionFailed kid "message too long") := by
    rw [contentKey, Rsa.Oaep.wrap?, if_pos (by omega)]
  have halgorithm : .rsaOaep256 ∈ (Encrypter.rsa kid pub).algorithms := List.mem_singleton.2 rfl
  have hmethod : m ∈ (Encrypter.rsa kid pub).methods := ContentCipher.mem_all m
  rw [encrypt, if_neg (not_not_intro halgorithm), if_neg (not_not_intro hmethod), hkey, error_bind]

theorem exists_encrypt_rsa (hsize : m.keyLength + 66 ≤ pub.size)
    (hlength : plaintext.length ≤ Gcm.lengthLimit) :
    ∃ t, (Encrypter.rsa kid pub).encrypt r plaintext .rsaOaep256 m contentType = .ok t := by
  obtain ⟨wrapped, hwrapped⟩ := exists_contentKey_rsa kid r hsize
  exact exists_encrypt (List.mem_singleton.2 rfl) (ContentCipher.mem_all m) hwrapped
    Vector.length_toList hlength contentType

end Encrypter

/-! ## Signers -/

theorem SignatureAlgorithm.exists_padding {a : SignatureAlgorithm} (ha : a ∈ rsa) :
    ∃ padding, a.padding? = some padding := by
  cases a <;> first | exact ⟨_, rfl⟩ | exact absurd ha (by decide)

namespace SigningKey

variable {key : Rsa.PrivateKey} {a : SignatureAlgorithm} (ha : a ∈ SignatureAlgorithm.rsa)
  (r : Entropy) (message : Bytes)

include ha

theorem exists_sign_eq_error (hsound : key.Sound) (hfit : ¬key.FitToSign) :
    ∃ e, (SigningKey.rsa key).sign r a message = .error e := by
  obtain ⟨padding, hpadding⟩ := SignatureAlgorithm.exists_padding ha
  rw [← hsound.checkSigning_eq_ok_iff] at hfit
  obtain ⟨e, he⟩ := exists_eq_error_iff.2 fun _ ↦ hfit
  refine ⟨e, ?_⟩
  simp only [sign, hpadding, Rsa.PrivateKey.sign, he, error_bind]

theorem exists_sign_eq_ok (hstrong : key.Strong) :
    ∃ signature, (SigningKey.rsa key).sign r a message = .ok signature := by
  obtain ⟨padding, hpadding⟩ := SignatureAlgorithm.exists_padding ha
  have hsalt : (r.salt a.hash.length).toList.length = a.hash.length := Vector.length_toList
  obtain ⟨signature, hsignature⟩ := hstrong.exists_sign padding hsalt message
  exact ⟨signature, by simp only [sign, hpadding, hsignature]⟩

end SigningKey

/-! ## Services -/

namespace Service

/-- Whatever the encrypter under an id lists it does, with every text that is not too long. -/
def EncryptsAsListed (s : Service) (id : String) : Prop :=
  ∀ x, s.encrypters.lookup id = some x → ∀ a ∈ x.algorithms, ∀ m ∈ x.methods,
    ∀ r plaintext contentType, plaintext.length ≤ Gcm.lengthLimit → ∀ kid reason,
      s.encryptWith r plaintext (some id) ⟨some a, some m, contentType⟩ ≠
        .error (.encryptionFailed kid reason)

/-- Whatever the signer under an id lists it does, with all claims that are an object. -/
def SignsAsListed (s : Service) (id : String) : Prop :=
  ∀ x, s.signers.lookup id = some x → ∀ a ∈ x.algorithms, ∀ r claims, ∀ kid reason,
    s.sign r (.object claims) (some id) (some a) ≠ .error (.signingFailed kid reason)

variable {ring : KeyRing} {defaults : Defaults} {s : Service} {id : String} {k : Jwk}

theorem encryptWith_of_lookup {x : Encrypter} (hx : s.encrypters.lookup id = some x) (r : Entropy)
    (plaintext : Bytes) (a : KeyManagement) (m : ContentCipher) (contentType : Option String) :
    s.encryptWith r plaintext (some id) ⟨some a, some m, contentType⟩ =
      x.encrypt r plaintext a m contentType := by
  have hresolve : resolve s.encrypters .encrypt (some id) s.defaultEncryptionKeyId = .ok x :=
    resolve_eq_ok_iff.2 ⟨id, Option.some_or, hx⟩
  rw [encryptWith, hresolve, ok_bind]
  rfl

theorem sign_of_lookup {x : Signer} (hx : s.signers.lookup id = some x) (r : Entropy)
    (claims : Value) (a : SignatureAlgorithm) :
    s.sign r claims (some id) (some a) = x.sign r claims a := by
  have hresolve : resolve s.signers .sign (some id) s.defaultSigningKeyId = .ok x :=
    resolve_eq_ok_iff.2 ⟨id, Option.some_or, hx⟩
  rw [sign, hresolve, ok_bind]
  rfl

/-- The longest content key decides. -/
theorem encryptsAsListed_iff {pub : Rsa.PublicKey}
    (hx : s.encrypters.lookup id = some (.rsa id pub)) :
    s.EncryptsAsListed id ↔ 98 ≤ pub.size := by
  constructor
  · intro hlisted
    by_contra hsize
    refine hlisted _ hx .rsaOaep256 (List.mem_singleton.2 rfl) .a256gcm (ContentCipher.mem_all _)
      .zeros [] none (Nat.zero_le _) id "message too long" ?_
    rw [encryptWith_of_lookup hx]
    exact Encrypter.encrypt_rsa_of_lt id .zeros none (m := .a256gcm) (Nat.lt_of_not_le hsize) []
  · intro hsize x hx' a ha m _ r plaintext contentType hlength kid reason
    obtain rfl := Option.some.inj (hx.symm.trans hx')
    obtain rfl := List.mem_singleton.1 ha
    have hroom : m.keyLength + 66 ≤ pub.size := by
      cases m
      · exact Nat.le_trans (by decide) hsize
      · exact hsize
    obtain ⟨t, ht⟩ := Encrypter.exists_encrypt_rsa id r contentType hroom hlength
    rw [encryptWith_of_lookup hx, ht]
    intro h
    cases h

theorem exists_signer_of_rsa (hbuilt : s.Built) (hk : s.ring.get? id = some k)
    (hkind : k.kind = .rsa) {key : Rsa.PrivateKey} (hkey : k.rsaPrivateKey? = .ok (some key)) :
    ∃ preferred, s.signers.lookup id =
      some ⟨id, .rsa key, SignatureAlgorithm.rsa, preferred⟩ := by
  have hsome : (Signer.make? id k (.rsa key) SignatureAlgorithm.rsa).isSome :=
    Signer.isSome_make?.2 (List.cons_ne_nil _ _)
  obtain ⟨x, hx⟩ := Option.isSome_iff_exists.1 hsome
  have hmake : Signer.ofJwk id k = .ok (some x) :=
    Signer.ofJwk_eq_some_iff.2 (.inl ⟨hkind, key, hkey, hx⟩)
  obtain ⟨preferred, -, rfl⟩ := Signer.make?_eq_some_iff.1 hx
  exact ⟨preferred, (lookup_signers_eq_some_iff hbuilt).2 ⟨k, hk, hmake⟩⟩

theorem signer_eq_none (hbuilt : s.Built) (hk : s.ring.get? id = some k) (hkind : k.kind = .rsa)
    (hd : k.secret.d = none) : s.signers.lookup id = none := by
  refine Option.eq_none_iff_forall_ne_some.2 fun x hx ↦ ?_
  obtain ⟨k', hk', hmake⟩ := (lookup_signers_eq_some_iff hbuilt).1 hx
  obtain rfl := Option.some.inj (hk.symm.trans hk')
  rcases Signer.ofJwk_eq_some_iff.1 hmake with ⟨-, key, hkey, -⟩ | ⟨hoctets, -⟩
  · rw [Jwk.rsaPrivateKey?, if_pos hd] at hkey
    cases hkey
  · rw [hkind] at hoctets
    cases hoctets

section

variable {key : Rsa.PrivateKey} {preferred : SignatureAlgorithm}
  (hx : s.signers.lookup id = some ⟨id, .rsa key, SignatureAlgorithm.rsa, preferred⟩)

include hx

/-- A key that is not fit to sign has a signer all of whose algorithms fail. -/
theorem exists_sign_eq_signingFailed (hsound : key.Sound) (hfit : ¬key.FitToSign)
    {a : SignatureAlgorithm} (ha : a ∈ SignatureAlgorithm.rsa) (r : Entropy) (claims : Value) :
    ∃ reason, s.sign r claims (some id) (some a) = .error (.signingFailed id reason) := by
  obtain ⟨e, he⟩ := SigningKey.exists_sign_eq_error ha r
    (utf8 (Signer.signingInput id a claims)) hsound hfit
  refine ⟨e.message, ?_⟩
  rw [sign_of_lookup hx, Signer.sign, if_neg (not_not_intro ha)]
  simp only [he]

theorem signsAsListed_of_strong (hstrong : key.Strong) : s.SignsAsListed id := by
  intro x hx' a ha r claims kid reason
  obtain rfl := Option.some.inj (hx.symm.trans hx')
  obtain ⟨signature, hsignature⟩ := SigningKey.exists_sign_eq_ok ha r
    (utf8 (Signer.signingInput id a (.object claims))) hstrong
  rw [sign_of_lookup hx, Signer.sign, if_neg (not_not_intro ha)]
  simp only [hsignature]
  intro h
  cases h

theorem fitToSign_of_signsAsListed (hsound : key.Sound) (hlisted : s.SignsAsListed id) :
    key.FitToSign := by
  by_contra hfit
  have ha : SignatureAlgorithm.rs256 ∈ SignatureAlgorithm.rsa := List.mem_cons_self
  obtain ⟨reason, hfails⟩ := exists_sign_eq_signingFailed hx hsound hfit ha .zeros (.object [])
  exact hlisted _ hx .rs256 ha .zeros [] id reason hfails

/-- With prime factors a key signs what its signer lists exactly if it is fit to sign. -/
theorem signsAsListed_iff (hsound : key.Sound) (hp : key.factor1.Prime) (hq : key.factor2.Prime) :
    s.SignsAsListed id ↔ key.FitToSign :=
  ⟨fitToSign_of_signsAsListed hx hsound, fun hfit ↦
    signsAsListed_of_strong hx ⟨hsound, hp, hq, hsound.checkSigning_eq_ok_iff.2 hfit⟩⟩

end

/-- An RSA key of a service always has an encrypter, and a signer if it has a private exponent. The
encrypter does what it lists exactly if the modulus has 98 octets or more; a method whose content
keys do not fit never works, the others always do. The signer does what it lists if the key is fit
to sign and its factors are prime; if the key is not fit to sign, nothing the signer lists works. -/
theorem asListed_of_rsa (hs : build ring defaults = .ok s) (hk : ring.get? id = some k)
    (hkind : k.kind = .rsa) :
    (∃ pub, k.rsaPublicKey = .ok pub ∧ s.encrypters.lookup id = some (.rsa id pub) ∧
      (s.EncryptsAsListed id ↔ 98 ≤ pub.size) ∧
      ∀ m r plaintext contentType, plaintext.length ≤ Gcm.lengthLimit →
        if pub.size < m.keyLength + 66 then
          s.encryptWith r plaintext (some id) ⟨some .rsaOaep256, some m, contentType⟩ =
            .error (.encryptionFailed id "message too long")
        else ∃ t, s.encryptWith r plaintext (some id)
          ⟨some .rsaOaep256, some m, contentType⟩ = .ok t) ∧
    (k.secret.d = none → s.signers.lookup id = none) ∧
    ∀ key, k.rsaPrivateKey? = .ok (some key) →
      (∃ preferred, s.signers.lookup id =
        some ⟨id, .rsa key, SignatureAlgorithm.rsa, preferred⟩) ∧
      (key.factor1.Prime → key.factor2.Prime → (s.SignsAsListed id ↔ key.FitToSign)) ∧
      (¬key.FitToSign → ∀ a ∈ SignatureAlgorithm.rsa, ∀ r claims, ∃ reason,
        s.sign r claims (some id) (some a) = .error (.signingFailed id reason)) := by
  obtain ⟨rfl, -, hbuilt⟩ := of_build hs
  refine ⟨?_, signer_eq_none hbuilt hk hkind, fun key hkey ↦ ?_⟩
  · obtain ⟨c, hc⟩ := exists_ofJwk_of_get? hbuilt hk
    obtain ⟨hencrypter, -⟩ := Capabilities.ofJwk_eq_ok_iff.1 hc
    rw [Encrypter.ofJwk, hkind] at hencrypter
    obtain ⟨pub, hpub, -⟩ := bind_eq_ok_iff.1 hencrypter
    have hx : s.encrypters.lookup id = some (.rsa id pub) :=
      (lookup_encrypters_eq_some_iff hbuilt).2
        ⟨k, hk, Encrypter.ofJwk_eq_some_iff.2 (.inl ⟨hkind, pub, hpub, rfl⟩)⟩
    refine ⟨pub, hpub, hx, encryptsAsListed_iff hx, fun m r plaintext contentType hlength ↦ ?_⟩
    rw [encryptWith_of_lookup hx]
    split
    · next hsize => exact Encrypter.encrypt_rsa_of_lt id r contentType hsize plaintext
    · next hsize =>
      exact Encrypter.exists_encrypt_rsa id r contentType (Nat.le_of_not_lt hsize) hlength
  · obtain ⟨preferred, hx⟩ := exists_signer_of_rsa hbuilt hk hkind hkey
    obtain ⟨hsound, -, -⟩ := Jwk.number_of_rsaPrivateKey? hkey
    exact ⟨⟨preferred, hx⟩, signsAsListed_iff hx hsound, fun hfit a ha r claims ↦
      exists_sign_eq_signingFailed hx hsound hfit ha r claims⟩

/-- A key of 2048 bits encrypts and signs as listed. -/
theorem asListed_of_rsa_sample :
    ∃ s, build (.single "a" (Jwk.ofPrivateKey "a" .sample)) .none = .ok s ∧
      s.EncryptsAsListed "a" ∧ s.SignsAsListed "a" := by
  have hkey := Rsa.PrivateKey.strong_sample
  generalize Rsa.PrivateKey.sample = key at hkey ⊢
  have hs := build_ofPrivateKey "a" .none hkey
  have hprivate := Jwk.rsaPrivateKey?_ofPrivateKey "a" hkey
  obtain ⟨⟨pub, hpub, -, hencrypts, -⟩, -, hsigner⟩ :=
    asListed_of_rsa hs (KeyRing.get?_single_eq_some_iff.2 ⟨rfl, rfl⟩) rfl
  obtain ⟨-, hsigns, -⟩ := hsigner key hprivate
  obtain ⟨hlarge, -, -⟩ := Rsa.PrivateKey.checkSigning_eq_ok hkey.signs
  have hsize : pub.size = byteLength key.modulus := by
    rw [← Jwk.toPublic_of_rsaPrivateKey? hprivate hpub]
    rfl
  refine ⟨_, hs, hencrypts.2 (by omega), ?_⟩
  exact (hsigns hkey.prime1 hkey.prime2).2 (hkey.sound.checkSigning_eq_ok_iff.1 hkey.signs)

/-- The key of the textbooks, with the factors 61 and 53. -/
def textbookKey : Jwk where
  kty := "RSA"
  kid := some "t"
  use := none
  alg := none
  n := some "DKE"
  e := some "EQ"
  crv := none
  x := none
  y := none
  secret := { SecretMembers.none with d := some "AZ0", p := some "PQ", q := some "NQ" }

/-- It is given all capabilities, but neither encrypts nor signs. -/
theorem not_asListed_textbookKey :
    ∃ s, build (.single "t" textbookKey) .none = .ok s ∧
      (s.encrypters.lookup "t").isSome ∧ (s.signers.lookup "t").isSome ∧
      ¬s.EncryptsAsListed "t" ∧ ¬s.SignsAsListed "t" := by
  have hcapabilities : Capabilities.ofJwk "t" textbookKey = .ok
      { encrypter := some (.rsa "t" ⟨3233, 17⟩)
        decrypter := some (.rsa "t" ⟨3233, 17, 413, 61, 53, 38⟩)
        signer := some ⟨"t", .rsa ⟨3233, 17, 413, 61, 53, 38⟩, SignatureAlgorithm.rsa, .rs256⟩
        verifier := some ⟨"t", .rsa ⟨[12, 161], [17]⟩, SignatureAlgorithm.rsa⟩ } := by
    decide +kernel
  have hsound : Rsa.PrivateKey.Sound ⟨3233, 17, 413, 61, 53, 38⟩ := by
    constructor <;> decide +kernel
  refine ⟨_, build_single .none hcapabilities, rfl, rfl, ?_, fun hlisted ↦ ?_⟩
  · rw [encryptsAsListed_iff rfl]
    decide +kernel
  · have hlength := (fitToSign_of_signsAsListed rfl hsound hlisted).length_mem
    exact absurd hlength (by decide +kernel)

end Service

end SignOn.Jose
