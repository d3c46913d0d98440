import Mathlib.Tactic.NormNum.Prime
import SignOn.Proofs.Crypto.Rsa.Exponents
import SignOn.Proofs.Jose.SignatureLists

/-!
# Both halves of an RSA key

What is checked of the private half of an RSA key is enough for both halves to undo one another,
whether the factors were given or recovered. The public half has the same numbers. It is accepted
with the private one unless the modulus is too large, which is asked of the public half only: a key
with a larger modulus decrypts and signs, but does not encrypt.
-/

namespace SignOn.Jose

open Crypto Outcome

section

variable {kid : String} {k : Jwk} {key : Rsa.PrivateKey}

/-- How the halves of an RSA key fit together whose private half is accepted. -/
structure Jwk.HalvesMatch (k : Jwk) (key : Rsa.PrivateKey) : Prop where
  modulus : k.number "n" k.n = .ok key.modulus
  exponent : k.number "e" k.e = .ok key.exponent
  secret : k.number "d" k.secret.d = .ok key.secret
  rsaPublicKey_eq : k.rsaPublicKey = if Rsa.PublicKey.maxBits < bitLength key.modulus
    then .error (.invalidKeyMaterial k.id "modulus too large")
    else .ok ⟨key.modulus, key.exponent⟩
  factors : key.factor1 * key.factor2 = key.modulus
  inverse1 : key.exponent * key.secret ≡ 1 [MOD key.factor1 - 1]
  inverse2 : key.exponent * key.secret ≡ 1 [MOD key.factor2 - 1]
  toPublic_apply : ∀ m, key.toPublic.apply m = m ^ key.exponent % key.modulus
  /-- Whether or not they are prime. -/
  ne : key.factor1 ≠ key.factor2
  apply : key.factor1.Prime → key.factor2.Prime →
    ∀ c, key.apply c = c ^ key.secret % key.modulus
  pow_pow : key.factor1.Prime → key.factor2.Prime → ∀ m < key.modulus,
    (m ^ key.exponent % key.modulus) ^ key.secret % key.modulus = m
  decrypter : k.kind = .rsa → ∀ kid, Decrypter.ofJwk kid k = .ok (some (.rsa kid key))
  signer : k.kind = .rsa → ∀ kid, ∃ a,
    Signer.ofJwk kid k = .ok (some ⟨kid, .rsa key, SignatureAlgorithm.rsa, a⟩)
  encrypter_eq : k.kind = .rsa → ∀ kid, Encrypter.ofJwk kid k =
    if Rsa.PublicKey.maxBits < bitLength key.modulus
      then .error (.invalidKeyMaterial k.id "modulus too large")
      else .ok (some (.rsa kid key.toPublic))

/-- Beside a private half only the size of the modulus is in the way of an encrypter. -/
theorem Encrypter.ofJwk_of_rsaPrivateKey? (kid : String) (hk : k.kind = .rsa)
    (h : k.rsaPrivateKey? = .ok (some key)) :
    ofJwk kid k = if Rsa.PublicKey.maxBits < bitLength key.modulus
      then .error (.invalidKeyMaterial k.id "modulus too large")
      else .ok (some (.rsa kid key.toPublic)) := by
  rw [ofJwk_eq_map hk, Jwk.rsaPublicKey_of_rsaPrivateKey? h]
  split <;> rfl

/-- Nothing more is asked than that the private half is accepted. -/
theorem Jwk.halvesMatch (h : k.rsaPrivateKey? = .ok (some key)) : k.HalvesMatch key := by
  obtain ⟨n, e, d, factors, hn, he, hd, -, hkey⟩ := rsaPrivateKey?_eq_some_iff.1 h
  obtain ⟨hsound, rfl, rfl, rfl, -⟩ := Rsa.PrivateKey.ofNumbers_eq_ok_iff.1 hkey
  have hpublic := rsaPublicKey_of_rsaPrivateKey? h
  exact {
    modulus := hn
    exponent := he
    secret := hd
    rsaPublicKey_eq := hpublic
    factors := hsound.factors
    inverse1 := Rsa.modEq_one_of_mul_mod hsound.inverse1
    inverse2 := Rsa.modEq_one_of_mul_mod hsound.inverse2
    toPublic_apply := fun m ↦ Rsa.powMod_eq m key.exponent key.modulus
    ne := hsound.factor1_ne_factor2
    apply := hsound.apply_eq
    pow_pow := fun hp hq m hm ↦ hsound.pow_pow hp hq hm
    decrypter := fun hk kid ↦ Decrypter.ofJwk_eq_some_iff.2 (.inl ⟨hk, key, h, rfl⟩)
    signer := fun hk kid ↦ (Signer.exists_ofJwk_of_rsaPrivateKey? kid hk h).imp fun _ ↦ And.left
    encrypter_eq := fun hk kid ↦ Encrypter.ofJwk_of_rsaPrivateKey? kid hk h }

end

/-- A key of 35 bits, written without its factors 131111 and 131101. -/
def Jwk.shortKey : Jwk where
  kty := "RSA"
  kid := some "s"
  use := none
  alg := none
  n := some "BACIBGs"
  e := some "AQAB"
  crv := none
  x := none
  y := none
  secret := { SecretMembers.none with d := some "KkAUTQ" }

theorem Jwk.rsaPrivateKey?_shortKey : shortKey.rsaPrivateKey? =
    .ok (some ⟨17188783211, 65537, 708842573, 131111, 131101, 13111⟩) := by
  decide +kernel

theorem Jwk.rsaPrivateKey?_textbookKey : Service.textbookKey.rsaPrivateKey? =
    .ok (some ⟨3233, 17, 413, 61, 53, 38⟩) := by
  decide +kernel

/-- The key of the textbooks comes with its factors, the other one without. -/
theorem Jwk.halvesMatch_sample :
    (Service.textbookKey.rsaPublicKey = .ok ⟨3233, 17⟩ ∧
      ∀ m < 3233, (m ^ 17 % 3233) ^ 413 % 3233 = m) ∧
    shortKey.rsaPublicKey = .ok ⟨17188783211, 65537⟩ ∧
      ∀ m < 17188783211, (m ^ 65537 % 17188783211) ^ 708842573 % 17188783211 = m := by
  have htextbook := halvesMatch rsaPrivateKey?_textbookKey
  have hshort := halvesMatch rsaPrivateKey?_shortKey
  refine ⟨⟨?_, ?_⟩, ?_, ?_⟩
  · exact htextbook.rsaPublicKey_eq.trans (if_neg (by decide +kernel))
  · simpa only using htextbook.pow_pow (by norm_num) (by norm_num)
  · exact hshort.rsaPublicKey_eq.trans (if_neg (by decide +kernel))
  · simpa only using hshort.pow_pow (by norm_num) (by norm_num)

/-- The key of 4103 bits decrypts and signs, but it does not encrypt. -/
theorem Jwk.rsaPublicKey_ne_ok_large :
    let k := ofPrivateKey "l" .large
    k.kind = .rsa ∧ k.rsaPrivateKey? = .ok (some .large) ∧
      Rsa.PrivateKey.large.factor1.Prime ∧ Rsa.PrivateKey.large.factor2.Prime ∧
      (∃ x, Decrypter.ofJwk "l" k = .ok (some x)) ∧
      (∃ x, Signer.ofJwk "l" k = .ok (some x)) ∧
      (∀ pub, k.rsaPublicKey ≠ .ok pub) ∧ ∀ x, Encrypter.ofJwk "l" k ≠ .ok x := by
  have hp := Rsa.PrivateKey.prime_factor1_large
  have hq := Rsa.PrivateKey.prime_factor2_large
  have hlarge := Rsa.PrivateKey.maxBits_lt_bitLength_large
  have hprivate := rsaPrivateKey?_of_sound "l" Rsa.PrivateKey.sound_large
  generalize Rsa.PrivateKey.large = key at hp hq hlarge hprivate ⊢
  intro k
  have hpublic := rsaPublicKey_of_rsaPrivateKey? hprivate
  have hencrypter := Encrypter.ofJwk_of_rsaPrivateKey? "l" rfl hprivate
  rw [if_pos hlarge] at hpublic hencrypter
  obtain ⟨a, hsigner, -⟩ := Signer.exists_ofJwk_of_rsaPrivateKey? "l" rfl hprivate
  refine ⟨rfl, hprivate, hp, hq, ?_, ⟨_, hsigner⟩, ?_, ?_⟩
  · exact ⟨_, Decrypter.ofJwk_eq_some_iff.2 (.inl ⟨rfl, key, hprivate, rfl⟩)⟩
  · simp [k, hpublic]
  · simp [k, hencrypter]

end SignOn.Jose
