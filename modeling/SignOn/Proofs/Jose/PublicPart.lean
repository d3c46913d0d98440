import SignOn.Proofs.Jose.Construction

/-!
# The public parts of keys

A key without its secret members encrypts and verifies as it did with them, but it does not decrypt
or sign any more. So the public parts of the keys of a service make a service again.
-/

namespace SignOn.Jose

open Json Outcome

/-! ## Keys without their secret members -/

namespace Jwk

variable {k k' : Jwk}

theorem hasPublicPart_kind : k.kind.hasPublicPart = true ↔ k.kty ∈ ["RSA", "EC", "OKP"] := by
  rw [kind, KeyKind.ofType]
  split_ifs <;> simp_all [KeyKind.hasPublicPart]

theorem public?_eq_some_iff :
    k.public? = some k' ↔ k.kty ∈ ["RSA", "EC", "OKP"] ∧ k' = { k with secret := .none } := by
  rw [public?, ← hasPublicPart_kind]
  split
  · next h => simp [h, eq_comm]
  · next h => simp [h]

variable (h : k.public? = some k')

include h

theorem kind_public : k'.kind = k.kind := by
  obtain ⟨-, rfl⟩ := public?_eq_some_iff.1 h
  rfl

theorem kind_ne_octets : k.kind ≠ .octets := by
  intro hk
  rw [public?, hk] at h
  cases h

theorem rsaPublicKey_public : k'.rsaPublicKey = k.rsaPublicKey := by
  obtain ⟨-, rfl⟩ := public?_eq_some_iff.1 h
  rfl

theorem rsaPrivateKey?_public : k'.rsaPrivateKey? = .ok none := by
  obtain ⟨-, rfl⟩ := public?_eq_some_iff.1 h
  rfl

end Jwk

/-! ## What the public part of a key can do -/

section

variable {k k' : Jwk} (h : k.public? = some k') (id : String)

include h

theorem Encrypter.ofJwk_public : Encrypter.ofJwk id k' = Encrypter.ofJwk id k := by
  rw [Encrypter.ofJwk, Encrypter.ofJwk, Jwk.kind_public h, Jwk.rsaPublicKey_public h]
  cases hk : k.kind with
  | octets => exact absurd hk (Jwk.kind_ne_octets h)
  | rsa | ellipticCurve | octetPair | other => rfl

theorem Verifier.ofJwk_public : Verifier.ofJwk id k' = Verifier.ofJwk id k := by
  have hn : k'.n = k.n ∧ k'.e = k.e := by
    obtain ⟨-, rfl⟩ := Jwk.public?_eq_some_iff.1 h
    exact ⟨rfl, rfl⟩
  rw [Verifier.ofJwk, Verifier.ofJwk, Jwk.kind_public h, Jwk.rsaPublicKey_public h, hn.1, hn.2]
  cases hk : k.kind with
  | octets => exact absurd hk (Jwk.kind_ne_octets h)
  | rsa | ellipticCurve | octetPair | other => rfl

theorem Decrypter.ofJwk_public : Decrypter.ofJwk id k' = .ok none := by
  rw [Decrypter.ofJwk, Jwk.kind_public h, Jwk.rsaPrivateKey?_public h]
  cases hk : k.kind with
  | octets => exact absurd hk (Jwk.kind_ne_octets h)
  | rsa | ellipticCurve | octetPair | other => rfl

theorem Signer.ofJwk_public : Signer.ofJwk id k' = .ok none := by
  rw [Signer.ofJwk, Jwk.kind_public h, Jwk.rsaPrivateKey?_public h]
  cases hk : k.kind with
  | octets => exact absurd hk (Jwk.kind_ne_octets h)
  | rsa | ellipticCurve | octetPair | other => rfl

/-- The public part of a key can do what the key can do in public. -/
theorem Capabilities.ofJwk_public {c : Capabilities} (hc : ofJwk id k = .ok c) :
    ofJwk id k' = .ok { c with decrypter := none, signer := none } := by
  obtain ⟨hencrypter, -, -, hverifier⟩ := ofJwk_eq_ok_iff.1 hc
  refine ofJwk_eq_ok_iff.2 ⟨?_, Decrypter.ofJwk_public h id, Signer.ofJwk_public h id, ?_⟩
  · rw [Encrypter.ofJwk_public h, hencrypter]
  · rw [Verifier.ofJwk_public h, hverifier]

end

/-! ## The public parts of a ring -/

namespace KeyRing

/-- The ring of the public parts. -/
def published (r : KeyRing) : KeyRing where
  entries := r.publicKeys
  ascending := r.ascending.filterMap Jwk.public?
  named x hx := by
    obtain ⟨y, hy, h⟩ := List.mem_filterMap.1 hx
    obtain ⟨k, hk, rfl⟩ := Option.map_eq_some_iff.1 h
    obtain ⟨-, rfl⟩ := Jwk.public?_eq_some_iff.1 hk
    exact r.named y hy

theorem get?_published (r : KeyRing) (id : String) :
    r.published.get? id = (r.get? id).bind Jwk.public? :=
  Keyed.lookup_filterMap r.ascending.nodup Jwk.public? id

theorem get?_published_eq_some_iff {r : KeyRing} {id : String} {k' : Jwk} :
    r.published.get? id = some k' ↔ ∃ k, r.get? id = some k ∧ k.kty ∈ ["RSA", "EC", "OKP"] ∧
      k' = { k with secret := .none } := by
  simp only [get?_published, Option.bind_eq_some_iff, Jwk.public?_eq_some_iff]

theorem ids_published_subset (r : KeyRing) : r.published.ids ⊆ r.ids :=
  Keyed.keys_filterMap_subset Jwk.public? r.entries

end KeyRing

namespace Service

variable {s s' : Service}

/-- The key that is named is all that the choice depends on. -/
theorem resolve_some_congr {α : Type} {able able' : List (String × α)} {op : Operation}
    {id : String} {default default' : Option String} (h : able.lookup id = able'.lookup id) :
    resolve able op (some id) default = resolve able' op (some id) default' := by
  show resolve.find able op id = resolve.find able' op id
  rw [resolve.find, resolve.find, h]

/-- The public parts of sound keys are sound. -/
theorem exists_build_published (hs : s.Built) (defaults : Defaults) :
    ∃ s', build s.ring.published defaults = .ok s' := by
  refine exists_build fun x hx hunsound ↦ ?_
  have hpublic := KeyRing.get?_of_mem hx
  rw [KeyRing.get?_published, Option.bind_eq_some_iff] at hpublic
  obtain ⟨k, hk, hpublic⟩ := hpublic
  obtain ⟨c, hc⟩ := exists_ofJwk_of_get? hs hk
  obtain ⟨f, hf⟩ := Capabilities.exists_eq_error_iff.2 hunsound
  rw [Capabilities.ofJwk_public hpublic x.1 hc] at hf
  cases hf

section

variable (hring : s'.ring = s.ring.published)

include hring

/-- Every key of such a service is the public part of a key. -/
theorem exists_public?_of_get? {id : String} {k' : Jwk} (hk' : s'.ring.get? id = some k') :
    ∃ k, s.ring.get? id = some k ∧ k.public? = some k' := by
  rwa [hring, KeyRing.get?_published, Option.bind_eq_some_iff] at hk'

variable (hs' : s'.Built)

include hs'

theorem decrypters_published : s'.decrypters = [] := by
  refine List.eq_nil_iff_forall_not_mem.2 fun x hx ↦ ?_
  obtain ⟨k', hk', hmade⟩ := (lookup_decrypters_eq_some_iff hs').1 (lookup_of_mem_able hs' hx)
  obtain ⟨k, -, hpublic⟩ := exists_public?_of_get? hring hk'
  rw [Decrypter.ofJwk_public hpublic] at hmade
  cases hmade

theorem signers_published : s'.signers = [] := by
  refine List.eq_nil_iff_forall_not_mem.2 fun x hx ↦ ?_
  obtain ⟨k', hk', hmade⟩ := (lookup_signers_eq_some_iff hs').1 (lookup_of_mem_able hs' hx)
  obtain ⟨k, -, hpublic⟩ := exists_public?_of_get? hring hk'
  rw [Signer.ofJwk_public hpublic] at hmade
  cases hmade

variable (hs : s.Built) {id : String} {k' : Jwk} (hk' : s'.ring.get? id = some k')

include hs hk'

theorem lookup_encrypters_published : s'.encrypters.lookup id = s.encrypters.lookup id := by
  obtain ⟨k, hk, hpublic⟩ := exists_public?_of_get? hring hk'
  refine Option.ext fun x ↦ ?_
  simp only [lookup_encrypters_eq_some_iff hs', lookup_encrypters_eq_some_iff hs, hk, hk',
    Option.some.injEq, exists_eq_left', Encrypter.ofJwk_public hpublic]

theorem lookup_verifiers_published : s'.verifiers.lookup id = s.verifiers.lookup id := by
  obtain ⟨k, hk, hpublic⟩ := exists_public?_of_get? hring hk'
  refine Option.ext fun x ↦ ?_
  simp only [lookup_verifiers_eq_some_iff hs', lookup_verifiers_eq_some_iff hs, hk, hk',
    Option.some.injEq, exists_eq_left', Verifier.ofJwk_public hpublic]

/-- What is encrypted for a published key does not depend on who does it, given the same choices
and the same randomness. -/
theorem encryptWith_published (hdefaults : s'.defaults = s.defaults) (r : Entropy)
    (plaintext : Bytes) (options : EncryptOptions) :
    s'.encryptWith r plaintext (some id) options = s.encryptWith r plaintext (some id) options := by
  rw [encryptWith, encryptWith, hdefaults,
    resolve_some_congr (lookup_encrypters_published hring hs' hs hk')]

/-- Whoever has the public part of a key verifies as its owner does. -/
theorem verify_published {α : Type} (d : Decoder α) (token : String) :
    s'.verify d token (some id) = s.verify d token (some id) := by
  rw [verify, verify, Option.some_or,
    resolve_some_congr (lookup_verifiers_published hring hs' hs hk')]

end

end Service

end SignOn.Jose
