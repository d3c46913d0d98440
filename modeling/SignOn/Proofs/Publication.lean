import SignOn.Claims
import SignOn.Proofs.Jose.KeyDocument
import SignOn.Proofs.Jose.PrivateKey
import SignOn.Proofs.Jose.PublicPart
import SignOn.Publication

/-!
# What is published

Nothing that is published depends on the secret members of keys, and nothing but these members is
left out of the keys that have a public part. So whoever reads what a service publishes can do in
public what the service can.
-/

namespace SignOn

open Jose Json

/-! ## Keys that differ in their secrets -/

/-- Two keys that may differ only in their ids and their secret members. -/
structure Jose.Jwk.SamePublic (k k' : Jwk) : Prop where
  kty : k.kty = k'.kty
  use : k.use = k'.use
  alg : k.alg = k'.alg
  n : k.n = k'.n
  e : k.e = k'.e
  crv : k.crv = k'.crv
  x : k.x = k'.x
  y : k.y = k'.y

/-- Two rings with the same ids, whose keys may differ only in their secret members. -/
structure Jose.KeyRing.SamePublic (r r' : KeyRing) : Prop where
  ids : r.ids = r'.ids
  keys : ∀ id k k', r.get? id = some k → r'.get? id = some k' → k.SamePublic k'

namespace Jose.Jwk

variable {k k' : Jwk}

theorem SamePublic.kind (h : k.SamePublic k') : k.kind = k'.kind := by
  rw [Jwk.kind, Jwk.kind, h.kty]

theorem SamePublic.withoutSecret (h : k.SamePublic k') (hkid : k.kid = k'.kid) :
    { k with secret := .none } = { k' with secret := .none } := by
  rw [h.kty, hkid, h.use, h.alg, h.n, h.e, h.crv, h.x, h.y]

theorem SamePublic.public? (h : k.SamePublic k') (hkid : k.kid = k'.kid) :
    k.public? = k'.public? := by
  rw [Jwk.public?, Jwk.public?, h.kind, h.withoutSecret hkid]

theorem SamePublic.describe (h : k.SamePublic k') (hkid : k.kid = k'.kid)
    (hprivate : k.isPrivate = k'.isPrivate) : k.describe = k'.describe := by
  unfold Jwk.describe
  rw [h.kty, hkid, h.use, h.alg, hprivate]

end Jose.Jwk

theorem Jose.KeyRing.SamePublic.publicKeys {r r' : KeyRing} (h : r.SamePublic r') :
    r.publicKeys = r'.publicKeys := by
  refine Keyed.filterMap_congr h.ids ?_
  rintro ⟨id, k⟩ hx ⟨id', k'⟩ hy (rfl : id = id')
  have hkid : k.kid = k'.kid := (r.named _ hx).trans (r'.named _ hy).symm
  have hkeys := h.keys id k k' (KeyRing.get?_of_mem hx) (KeyRing.get?_of_mem hy)
  rw [hkeys.public? hkid]

/-! ## The keys that are published -/

namespace PublishedKeys

/-- A document lists exactly the keys of a ring that have a public part, in the order of their ids
and without their secret members; nothing else of them is changed. -/
structure Lists (x : PublishedKeys) (r : KeyRing) : Prop where
  mem_iff : ∀ k', k' ∈ x.keys ↔ ∃ id k, r.get? id = some k ∧ k.kty ∈ ["RSA", "EC", "OKP"] ∧
    k' = { k with secret := .none }
  ascending : (x.keys.map Jwk.id).Pairwise (· < ·)

variable {s : Service}

/-- No key of a public part has secret members, so the filter removes none. -/
theorem keys_ofService (s : Service) :
    (ofService s).keys = s.ring.published.entries.map Prod.snd := by
  refine List.filter_eq_self.2 fun k' hk' ↦ ?_
  obtain ⟨x, hx, rfl⟩ := List.mem_map.1 hk'
  obtain ⟨k, -, -, hk⟩ := KeyRing.get?_published_eq_some_iff.1 (KeyRing.get?_of_mem hx)
  rw [hk]
  rfl

theorem mem_keys_ofService {k' : Jwk} :
    k' ∈ (ofService s).keys ↔ ∃ id, s.ring.published.get? id = some k' := by
  rw [keys_ofService]
  constructor
  · intro hk'
    obtain ⟨x, hx, rfl⟩ := List.mem_map.1 hk'
    exact ⟨x.1, KeyRing.get?_of_mem hx⟩
  · rintro ⟨id, hk'⟩
    exact List.mem_map_of_mem (KeyRing.mem_of_get? hk')

theorem lists_ofService (s : Service) : (ofService s).Lists s.ring where
  mem_iff k' := by simp only [mem_keys_ofService, KeyRing.get?_published_eq_some_iff]
  ascending := by
    have hids : (ofService s).keys.map Jwk.id = s.ring.published.ids := by
      rw [keys_ofService, List.map_map]
      exact List.map_congr_left fun x hx ↦ KeyRing.id_of_mem hx
    rw [hids]
    exact s.ring.published.ascending

/-- What is published of two rings whose keys differ only in their secret members is the same, and
so are the descriptions of two such keys of which both or neither are private. -/
theorem ofService_eq_of_samePublic {r r' : KeyRing} (h : r.SamePublic r') :
    r.publicKeys = r'.publicKeys ∧
    (∀ defaults defaults' s s', Service.build r defaults = .ok s →
      Service.build r' defaults' = .ok s' →
        (ofService s).toJson.text = (ofService s').toJson.text) ∧
    (∀ id k k', r.get? id = some k → r'.get? id = some k' → k.isPrivate = k'.isPrivate →
      k.describe = k'.describe) ∧
    ∀ defaults s, Service.build r defaults = .ok s →
      (ofService s).Lists r ∧ (ofService s).keys = r.publicKeys.map Prod.snd := by
  refine ⟨h.publicKeys, ?_, ?_, ?_⟩
  · intro defaults defaults' s s' hs hs'
    obtain ⟨rfl, -, -⟩ := Service.of_build hs
    obtain ⟨rfl, -, -⟩ := Service.of_build hs'
    rw [ofService, ofService, Service.publicKeys, Service.publicKeys, h.publicKeys]
  · intro id k k' hk hk' hprivate
    have hkid : k.kid = k'.kid :=
      (r.named _ (KeyRing.mem_of_get? hk)).trans (r'.named _ (KeyRing.mem_of_get? hk')).symm
    exact (h.keys id k k' hk hk').describe hkid hprivate
  · intro defaults s hs
    obtain ⟨rfl, -, -⟩ := Service.of_build hs
    exact ⟨lists_ofService s, keys_ofService s⟩

/-- Without its secret members, the only key of a service makes another service, of which the same
is published. -/
theorem ofService_eq_of_samePublic_sample :
    ∃ r r' s s', r.SamePublic r' ∧ Service.build r .none = .ok s ∧
      Service.build r' .none = .ok s' ∧ s.signers ≠ [] ∧ s'.signers = [] ∧
      r.publicKeys = r'.publicKeys ∧ (ofService s).toJson.text = (ofService s').toJson.text := by
  have hkey := Crypto.Rsa.PrivateKey.strong_sample
  generalize Crypto.Rsa.PrivateKey.sample = key at hkey
  have hs := Service.build_ofPrivateKey "a" .none hkey
  obtain ⟨-, -, hbuilt⟩ := Service.of_build hs
  obtain ⟨s', hs'⟩ := Service.exists_build_published hbuilt .none
  obtain ⟨hring, -, hbuilt'⟩ := Service.of_build hs'
  have hsame : (KeyRing.single "a" (Jwk.ofPrivateKey "a" key)).SamePublic
      (KeyRing.single "a" (Jwk.ofPrivateKey "a" key)).published := by
    refine ⟨rfl, fun id k k' hk hk' ↦ ?_⟩
    rw [KeyRing.get?_published, hk, Option.bind_some] at hk'
    obtain ⟨-, rfl⟩ := Jwk.public?_eq_some_iff.1 hk'
    exact ⟨rfl, rfl, rfl, rfl, rfl, rfl, rfl, rfl⟩
  obtain ⟨hpublic, htext, -⟩ := ofService_eq_of_samePublic hsame
  exact ⟨_, _, _, _, hsame, hs, hs', List.cons_ne_nil _ _, Service.signers_published hring hbuilt',
    hpublic, htext _ _ _ _ hs hs'⟩

/-! ## Relying parties -/

/-- Whoever reads the published keys of a service can make a service of them, which has no private
key, but verifies and encrypts with the published keys as the service itself does. -/
theorem exists_build_ofService {document : String} {ring : KeyRing} {defaults : Defaults}
    (hring : KeyRing.parse document = .ok ring) (hs : Service.build ring defaults = .ok s) :
    ∃ ring' s', KeyRing.parse (ofService s).toJson.text = .ok ring' ∧
      Service.build ring' defaults = .ok s' ∧ s'.decrypters = [] ∧ s'.signers = [] ∧
      ∀ k ∈ (ofService s).keys,
        (∀ (α : Type) (d : Decoder α) token,
          s'.verify d token (some k.id) = s.verify d token (some k.id)) ∧
        ∀ r plaintext options,
          s'.encryptWith r plaintext (some k.id) options =
            s.encryptWith r plaintext (some k.id) options := by
  obtain ⟨rfl, rfl, hbuilt⟩ := Service.of_build hs
  obtain ⟨s', hs'⟩ := Service.exists_build_published hbuilt s.defaults
  obtain ⟨hring', hdefaults, hbuilt'⟩ := Service.of_build hs'
  have hids : "" ∉ s.ring.published.ids :=
    fun hid ↦ KeyRing.ne_empty_of_parse hring (s.ring.ids_published_subset hid)
  have hparse : KeyRing.parse (ofService s).toJson.text = .ok s.ring.published := by
    rw [toJson, keys_ofService]
    exact KeyRing.parse_toJson hids
  refine ⟨_, s', hparse, hs', Service.decrypters_published hring' hbuilt',
    Service.signers_published hring' hbuilt', fun k hk ↦ ?_⟩
  obtain ⟨id, hk⟩ := mem_keys_ofService.1 hk
  rw [← hring'] at hk
  obtain rfl : k.id = id := KeyRing.id_of_mem (KeyRing.mem_of_get? hk)
  exact ⟨fun α d token ↦ Service.verify_published hring' hbuilt' hbuilt hk d token,
    fun r plaintext options ↦
      Service.encryptWith_published hring' hbuilt' hbuilt hk hdefaults r plaintext options⟩

/-- The document of a service with one private key; its published key verifies alike. -/
theorem exists_build_ofService_sample :
    ∃ document ring s ring' s', KeyRing.parse document = .ok ring ∧
      Service.build ring .none = .ok s ∧ s.signers ≠ [] ∧
      KeyRing.parse (ofService s).toJson.text = .ok ring' ∧ Service.build ring' .none = .ok s' ∧
      s'.signers = [] ∧ ∀ token, s'.verify Claims.decode token (some "a") =
        s.verify Claims.decode token (some "a") := by
  have hkey := Crypto.Rsa.PrivateKey.strong_sample
  generalize Crypto.Rsa.PrivateKey.sample = key at hkey
  have hids : "" ∉ (KeyRing.single "a" (Jwk.ofPrivateKey "a" key)).ids := by
    show "" ∉ ["a"]
    decide
  have hring := KeyRing.parse_toJson hids
  have hs := Service.build_ofPrivateKey "a" .none hkey
  obtain ⟨ring', s', hring', hs', -, hsigners, hkeys⟩ := exists_build_ofService hring hs
  have hmem : { Jwk.ofPrivateKey "a" key with secret := .none } ∈
      (ofService (Service.ofPrivateKey "a" key .none)).keys :=
    mem_keys_ofService.2 ⟨"a", KeyRing.get?_published_eq_some_iff.2
      ⟨_, rfl, List.mem_cons_self, rfl⟩⟩
  exact ⟨_, _, _, ring', s', hring, hs, List.cons_ne_nil _ _, hring', hs', hsigners,
    (hkeys _ hmem).1 _ Claims.decode⟩

end PublishedKeys

end SignOn
