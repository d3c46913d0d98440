import SignOn.Proofs.Jose.Capability

/-!
# Shared secrets written out

A secret of 32 bytes is long enough for one method of encryption and for one algorithm of signing,
so a key that has it can do everything that keys can do.
-/

namespace SignOn.Jose

open Outcome Text

/-- A key with a shared secret. -/
def Jwk.ofSecret (kid : String) (secret : Bytes) : Jwk where
  kty := "oct"
  kid := some kid
  use := none
  alg := none
  n := none
  e := none
  crv := none
  x := none
  y := none
  secret := { SecretMembers.none with k := some (Base64Url.encode secret) }

/-- The capabilities of a secret of 32 bytes. -/
def Capabilities.ofSecret (kid : String) (secret : Bytes) : Capabilities where
  encrypter := some (.direct kid secret .a256gcm)
  decrypter := some (.direct kid secret .a256gcm)
  signer := some ⟨kid, .secret secret, [.hs256], .hs256⟩
  verifier := some ⟨kid, .secret secret, [.hs256]⟩

/-- The service that has one secret of 32 bytes. -/
def Service.ofSecret (kid : String) (secret : Bytes) (defaults : Defaults) : Service :=
  ⟨.single kid (Jwk.ofSecret kid secret), defaults, [(kid, .ofSecret kid secret)]⟩

section

variable (kid : String) {secret : Bytes}

theorem Jwk.kind_ofSecret (secret : Bytes) : (ofSecret kid secret).kind = .octets := rfl

/-- The secret is what the member encodes, whatever else the key says. -/
theorem Jwk.sharedSecret_of_encode {k : Jwk} (hk : k.secret.k = some (Base64Url.encode secret))
    (hne : secret ≠ []) : k.sharedSecret = .ok secret := by
  rw [sharedSecret, hk, member_encode, ok_bind, if_neg hne]

theorem Jwk.sharedSecret_ofSecret (hne : secret ≠ []) :
    (ofSecret kid secret).sharedSecret = .ok secret :=
  sharedSecret_of_encode rfl hne

variable (hlength : secret.length = 32)

include hlength

theorem Capabilities.ofJwk_ofSecret :
    ofJwk kid (Jwk.ofSecret kid secret) = .ok (ofSecret kid secret) := by
  have hkind := Jwk.kind_ofSecret kid secret
  have hsecret : (Jwk.ofSecret kid secret).sharedSecret = .ok secret :=
    Jwk.sharedSecret_ofSecret kid (List.ne_nil_of_length_pos (by omega))
  have hmethod : ContentCipher.keyLength .a256gcm = secret.length := hlength.symm
  have hlisted : SignatureAlgorithm.forSecretLength secret.length = [.hs256] := by
    rw [hlength]
    rfl
  refine ofJwk_eq_ok_iff.2 ⟨?_, ?_, ?_, ?_⟩
  · exact Encrypter.ofJwk_eq_some_iff.2 (.inr ⟨hkind, secret, _, hsecret, hmethod, rfl⟩)
  · exact Decrypter.ofJwk_eq_some_iff.2 (.inr ⟨hkind, secret, _, hsecret, hmethod, rfl⟩)
  · refine Signer.ofJwk_eq_some_iff.2 (.inr ⟨hkind, secret, hsecret, ?_⟩)
    rw [hlisted]
    rfl
  · refine Verifier.ofJwk_eq_some_iff.2 (.inr ⟨hkind, secret, hsecret, ?_, ?_⟩)
    · rw [hlisted]
      exact List.cons_ne_nil _ _
    · rw [hlisted]

theorem Service.build_ofSecret (defaults : Defaults) :
    build (.single kid (Jwk.ofSecret kid secret)) defaults = .ok (ofSecret kid secret defaults) :=
  build_single defaults (Capabilities.ofJwk_ofSecret kid hlength)

end

end SignOn.Jose
