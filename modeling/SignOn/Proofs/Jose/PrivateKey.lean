import SignOn.Proofs.Crypto.Rsa.Oaep
import SignOn.Proofs.Crypto.Rsa.Prime
import SignOn.Proofs.Jose.Capability

/-!
# RSA keys written out

A key whose members encode the numbers of a private RSA key is read back as this key, and can do
everything that keys can do.
-/

namespace SignOn

/-- A random choice as good as any other. -/
def Entropy.zeros : Entropy :=
  ⟨fun n ↦ .replicate n 0, .replicate 12 0, .replicate 32 0, fun n ↦ .replicate n 0,
    .replicate 16 0⟩

end SignOn

namespace SignOn.Jose

open Crypto Outcome Text

namespace Jwk

/-- A member that encodes a number. -/
def encoded (x : Nat) : Option String := some (Base64Url.encode (octets x))

theorem number_encoded (k : Jwk) (name : String) (x : Nat) : k.number name (encoded x) = .ok x := by
  rw [encoded, number_encode, toNat_octets]

/-- A private key with its factors. -/
def ofPrivateKey (kid : String) (key : Rsa.PrivateKey) : Jwk where
  kty := "RSA"
  kid := some kid
  use := none
  alg := none
  n := encoded key.modulus
  e := encoded key.exponent
  crv := none
  x := none
  y := none
  secret :=
    { SecretMembers.none with
      d := encoded key.secret
      p := encoded key.factor1
      q := encoded key.factor2 }

section

variable (kid : String) {key : Rsa.PrivateKey} (hkey : key.Strong)

theorem kind_ofPrivateKey (key : Rsa.PrivateKey) : (ofPrivateKey kid key).kind = .rsa := rfl

theorem rsaFactors_ofPrivateKey (key : Rsa.PrivateKey) :
    (ofPrivateKey kid key).rsaFactors = .ok (some (key.factor1, key.factor2)) := by
  have hgiven : ¬(encoded key.factor1 = none ∧ encoded key.factor2 = none) := by
    rintro ⟨⟨⟩, -⟩
  simp only [rsaFactors, ofPrivateKey, number_encoded, if_neg hgiven, ok_bind]
  rfl

/-- Whatever the size of a key is, it is read back. -/
theorem rsaPrivateKey?_of_sound {key : Rsa.PrivateKey} (hkey : key.Sound) :
    (ofPrivateKey kid key).rsaPrivateKey? = .ok (some key) := by
  have hnumbers : Rsa.PrivateKey.ofNumbers key.modulus key.exponent key.secret
      (some (key.factor1, key.factor2)) = .ok key := by
    rw [Rsa.PrivateKey.ofNumbers_some, hkey.ofFactors_eq]
    rfl
  have hsecret : encoded key.secret ≠ none := by
    rintro ⟨⟩
  rw [rsaPrivateKey?, rsaFactors_ofPrivateKey]
  simp only [ofPrivateKey, number_encoded, if_neg hsecret, lift_ok, ok_bind, hnumbers]

include hkey

theorem rsaPublicKey_ofPrivateKey : (ofPrivateKey kid key).rsaPublicKey = .ok key.toPublic := by
  obtain ⟨-, hbits, -⟩ := Rsa.PrivateKey.checkSigning_eq_ok hkey.signs
  have hpublic : Rsa.PublicKey.ofNumbers key.modulus key.exponent = .ok key.toPublic := by
    have hcheck : Rsa.PublicKey.check ⟨key.modulus, key.exponent⟩ = .ok () := hkey.sound.check
    simp only [Rsa.PublicKey.ofNumbers, if_neg (Nat.not_lt.2 hbits), hcheck, ok_bind]
    rfl
  simp only [rsaPublicKey, ofPrivateKey, number_encoded, ok_bind, hpublic]

theorem rsaPrivateKey?_ofPrivateKey :
    (ofPrivateKey kid key).rsaPrivateKey? = .ok (some key) :=
  rsaPrivateKey?_of_sound kid hkey.sound

end

end Jwk

/-- Its factors are prime, so it unwraps what its public half wrapped. -/
theorem KeyRing.unwraps_of_get?_single {kid id : String} {key key' : Rsa.PrivateKey}
    (hkey : key.Strong) {k : Jwk} (hk : (single kid (Jwk.ofPrivateKey kid key)).get? id = some k)
    (hprivate : k.rsaPrivateKey? = .ok (some key')) : key'.Unwraps := by
  obtain ⟨-, rfl⟩ := get?_single_eq_some_iff.1 hk
  obtain rfl := Option.some.inj
    (Except.ok.inj ((Jwk.rsaPrivateKey?_ofPrivateKey kid hkey).symm.trans hprivate))
  exact hkey.sound.unwraps hkey.prime1 hkey.prime2

/-- The capabilities of a private RSA key. -/
def Capabilities.ofPrivateKey (kid : String) (key : Rsa.PrivateKey) : Capabilities where
  encrypter := some (.rsa kid key.toPublic)
  decrypter := some (.rsa kid key)
  signer := some ⟨kid, .rsa key, SignatureAlgorithm.rsa, .rs256⟩
  verifier :=
    some ⟨kid, .rsa ⟨octets key.modulus, octets key.exponent⟩, SignatureAlgorithm.rsa⟩

theorem Capabilities.ofJwk_ofPrivateKey (kid : String) {key : Rsa.PrivateKey} (hkey : key.Strong) :
    ofJwk kid (Jwk.ofPrivateKey kid key) = .ok (ofPrivateKey kid key) := by
  have hkind := Jwk.kind_ofPrivateKey kid key
  have hpublic := Jwk.rsaPublicKey_ofPrivateKey kid hkey
  have hprivate := Jwk.rsaPrivateKey?_ofPrivateKey kid hkey
  have hmember (x : Nat) : Verifier.strictMember kid (Jwk.encoded x) = .ok (octets x) := by
    rw [Jwk.encoded, Verifier.strictMember, Base64Url.decode_encode]
  refine ofJwk_eq_ok_iff.2 ⟨?_, ?_, ?_, ?_⟩
  · exact Encrypter.ofJwk_eq_some_iff.2 (.inl ⟨hkind, key.toPublic, hpublic, rfl⟩)
  · exact Decrypter.ofJwk_eq_some_iff.2 (.inl ⟨hkind, key, hprivate, rfl⟩)
  · exact Signer.ofJwk_eq_some_iff.2 (.inl ⟨hkind, key, hprivate, rfl⟩)
  · exact Verifier.ofJwk_eq_some_iff.2 (.inl ⟨hkind, ⟨key.toPublic, hpublic⟩, octets key.modulus,
      octets key.exponent, hmember _, hmember _, rfl⟩)

namespace Service

/-- The service that has one private RSA key. -/
def ofPrivateKey (kid : String) (key : Rsa.PrivateKey) (defaults : Defaults) : Service :=
  ⟨.single kid (Jwk.ofPrivateKey kid key), defaults, [(kid, .ofPrivateKey kid key)]⟩

variable (kid : String) (key : Rsa.PrivateKey) (defaults : Defaults)

theorem build_ofPrivateKey {key : Rsa.PrivateKey} (hkey : key.Strong) :
    build (.single kid (Jwk.ofPrivateKey kid key)) defaults = .ok (ofPrivateKey kid key defaults) :=
  build_single defaults (Capabilities.ofJwk_ofPrivateKey kid hkey)

@[simp] theorem lookup_encrypters_ofPrivateKey :
    (ofPrivateKey kid key defaults).encrypters.lookup kid = some (.rsa kid key.toPublic) :=
  List.lookup_cons_self

@[simp] theorem lookup_decrypters_ofPrivateKey :
    (ofPrivateKey kid key defaults).decrypters.lookup kid = some (.rsa kid key) :=
  List.lookup_cons_self

@[simp] theorem lookup_signers_ofPrivateKey :
    (ofPrivateKey kid key defaults).signers.lookup kid =
      some ⟨kid, .rsa key, SignatureAlgorithm.rsa, .rs256⟩ :=
  List.lookup_cons_self

@[simp] theorem lookup_verifiers_ofPrivateKey :
    (ofPrivateKey kid key defaults).verifiers.lookup kid =
      some ⟨kid, .rsa ⟨octets key.modulus, octets key.exponent⟩, SignatureAlgorithm.rsa⟩ :=
  List.lookup_cons_self

end Service

end SignOn.Jose
