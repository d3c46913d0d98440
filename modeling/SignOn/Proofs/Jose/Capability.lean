import SignOn.Jose.Service
import SignOn.Proofs.Crypto.Rsa.Key
import SignOn.Proofs.Keyed
import SignOn.Proofs.Text.Base64Url

/-!
# What the keys of a built service can do

A service has only the capabilities that its keys have, each under the id of its key. So whatever
an operation is done with was made from the one key that the ring holds under the id in question.
-/

namespace SignOn.Jose

open Outcome Crypto

theorem lift_ok {α : Type} (a : α) : (liftM (Except.ok a : Except Error α) : Except Failure α) =
    .ok a := rfl

/-- Lifting keeps successes and nothing else. -/
@[simp] theorem lift_eq_ok_iff {α : Type} {x : Except Error α} {a : α} :
    (liftM x : Except Failure α) = .ok a ↔ x = .ok a := by
  cases x with
  | error e =>
    constructor
    · rintro ⟨⟩
    · rintro ⟨⟩
  | ok b =>
    constructor
    · rintro ⟨⟩
      rfl
    · rintro ⟨⟩
      rfl

/-! ## The material of keys -/

namespace Jwk

variable {k : Jwk}

theorem member_encode (k : Jwk) (name : String) (bs : Bytes) :
    k.member name (some (Text.Base64Url.encode bs)) = .ok bs := by
  simp only [member, Text.Base64Url.stripPadding_encode, Text.Base64Url.decode_encode]

theorem number_encode (k : Jwk) (name : String) (bs : Bytes) :
    k.number name (some (Text.Base64Url.encode bs)) = .ok (toNat bs) := by
  rw [number, member_encode, map_ok]

theorem ne_none_of_number {name : String} {value : Option String} {x : Nat}
    (h : k.number name value = .ok x) : value ≠ none := by
  rintro rfl
  cases h

theorem number_of_rsaPublicKey {key : Rsa.PublicKey} (h : k.rsaPublicKey = .ok key) :
    k.number "n" k.n = .ok key.modulus ∧ k.number "e" k.e = .ok key.exponent := by
  rw [rsaPublicKey] at h
  obtain ⟨n, hn, h⟩ := bind_eq_ok_iff.1 h
  obtain ⟨e, he, h⟩ := bind_eq_ok_iff.1 h
  cases hkey : Rsa.PublicKey.ofNumbers n e with
  | error reason =>
    rw [hkey] at h
    cases h
  | ok key' =>
    rw [hkey] at h
    obtain rfl := Except.ok.inj h
    obtain ⟨-, -, rfl⟩ := Rsa.PublicKey.ofNumbers_eq_ok hkey
    exact ⟨hn, he⟩

/-- The members that a private key is built from. -/
theorem rsaPrivateKey?_eq_some_iff {key : Rsa.PrivateKey} :
    k.rsaPrivateKey? = .ok (some key) ↔ ∃ n e d factors, k.number "n" k.n = .ok n ∧
      k.number "e" k.e = .ok e ∧ k.number "d" k.secret.d = .ok d ∧ k.rsaFactors = .ok factors ∧
      Rsa.PrivateKey.ofNumbers n e d factors = .ok key := by
  rw [rsaPrivateKey?]
  constructor
  · intro h
    split at h
    · cases h
    · simp only [bind_eq_ok_iff, lift_eq_ok_iff] at h
      obtain ⟨n, hn, e, he, d, hd, factors, hfactors, h⟩ := h
      split at h
      · next key' hkey =>
        cases h
        exact ⟨n, e, d, factors, hn, he, hd, hfactors, hkey⟩
      · cases h
      · cases h
  · rintro ⟨n, e, d, factors, hn, he, hd, hfactors, hkey⟩
    simp only [if_neg (ne_none_of_number hd), hn, he, hd, hfactors, lift_ok, ok_bind, hkey]

/-- Besides being related, the numbers of a private key are those of the members. -/
theorem number_of_rsaPrivateKey? {key : Rsa.PrivateKey} (h : k.rsaPrivateKey? = .ok (some key)) :
    key.Sound ∧ k.number "n" k.n = .ok key.modulus ∧ k.number "e" k.e = .ok key.exponent := by
  obtain ⟨n, e, d, factors, hn, he, -, -, hkey⟩ := rsaPrivateKey?_eq_some_iff.1 h
  obtain ⟨hsound, rfl, rfl, -⟩ := Rsa.PrivateKey.ofNumbers_eq_ok_iff.1 hkey
  exact ⟨hsound, hn, he⟩

/-- The public part of the private key is the public key. -/
theorem toPublic_of_rsaPrivateKey? {key : Rsa.PrivateKey} {pub : Rsa.PublicKey}
    (hkey : k.rsaPrivateKey? = .ok (some key)) (hpub : k.rsaPublicKey = .ok pub) :
    key.toPublic = pub := by
  obtain ⟨-, hn, he⟩ := number_of_rsaPrivateKey? hkey
  obtain ⟨hn', he'⟩ := number_of_rsaPublicKey hpub
  rw [hn] at hn'
  rw [he] at he'
  rw [Rsa.PrivateKey.toPublic, Except.ok.inj hn', Except.ok.inj he']

end Jwk

/-! ## The capabilities of a key -/

variable {kid : String} {k : Jwk}

theorem Encrypter.ofJwk_eq_some_iff {x : Encrypter} :
    Encrypter.ofJwk kid k = .ok (some x) ↔
      (k.kind = .rsa ∧ ∃ key, k.rsaPublicKey = .ok key ∧ x = .rsa kid key) ∨
      (k.kind = .octets ∧ ∃ secret m, k.sharedSecret = .ok secret ∧
        ContentCipher.keyLength m = secret.length ∧ x = .direct kid secret m) := by
  rw [Encrypter.ofJwk]
  cases k.kind with
  | rsa =>
    simp only [bind_eq_ok_iff, pure_eq, Except.ok.injEq, Option.some.injEq, true_and, reduceCtorEq,
      false_and, or_false, eq_comm (a := x)]
  | octets =>
    simp only [bind_eq_ok_iff, pure_eq, Except.ok.injEq, Option.map_eq_some_iff, true_and,
      reduceCtorEq, false_and, false_or, ContentCipher.ofKeyLength?_eq_some_iff,
      exists_and_left, eq_comm (a := x)]
  | ellipticCurve | octetPair | other => simp

theorem Decrypter.ofJwk_eq_some_iff {x : Decrypter} :
    Decrypter.ofJwk kid k = .ok (some x) ↔
      (k.kind = .rsa ∧ ∃ key, k.rsaPrivateKey? = .ok (some key) ∧ x = .rsa kid key) ∨
      (k.kind = .octets ∧ ∃ secret m, k.sharedSecret = .ok secret ∧
        ContentCipher.keyLength m = secret.length ∧ x = .direct kid secret m) := by
  rw [Decrypter.ofJwk]
  cases k.kind with
  | rsa =>
    simp only [bind_eq_ok_iff, pure_eq, Except.ok.injEq, Option.map_eq_some_iff, true_and,
      reduceCtorEq, false_and, or_false, eq_comm (a := x)]
    constructor
    · rintro ⟨_, h, key, rfl, hx⟩
      exact ⟨key, h, hx⟩
    · rintro ⟨key, h, hx⟩
      exact ⟨some key, h, key, rfl, hx⟩
  | octets =>
    simp only [bind_eq_ok_iff, lift_eq_ok_iff, pure_eq, Except.ok.injEq, Option.map_eq_some_iff,
      true_and, reduceCtorEq, false_and, false_or, ContentCipher.ofKeyLength?_eq_some_iff,
      exists_and_left, eq_comm (a := x)]
  | ellipticCurve | octetPair | other => simp

namespace Signer

theorem preference?_mem {hint : Option String} {listed : List SignatureAlgorithm}
    {a : SignatureAlgorithm} (h : preference? hint listed = some a) : a ∈ listed := by
  have hfallback (h : preference?.fallback listed = some a) : a ∈ listed := by
    rw [preference?.fallback] at h
    split at h
    · exact List.mem_of_getLast? h
    · exact List.mem_of_head? h
  rw [preference?] at h
  split at h
  · split at h
    · next hmem =>
      obtain rfl := Option.some.inj h
      exact hmem
    · exact hfallback h
  · exact hfallback h

theorem make?_eq_some_iff {key : SigningKey} {listed : List SignatureAlgorithm} {x : Signer} :
    make? kid k key listed = some x ↔
      ∃ preferred, preference? k.alg listed = some preferred ∧
        x = ⟨kid, key, listed, preferred⟩ := by
  simp only [make?, Option.map_eq_some_iff, eq_comm (a := x)]

theorem ofJwk_eq_some_iff {x : Signer} :
    Signer.ofJwk kid k = .ok (some x) ↔
      (k.kind = .rsa ∧ ∃ key, k.rsaPrivateKey? = .ok (some key) ∧
        make? kid k (.rsa key) SignatureAlgorithm.rsa = some x) ∨
      (k.kind = .octets ∧ ∃ secret, k.sharedSecret = .ok secret ∧
        make? kid k (.secret secret) (SignatureAlgorithm.forSecretLength secret.length) =
          some x) := by
  rw [Signer.ofJwk]
  cases k.kind with
  | rsa =>
    simp only [bind_eq_ok_iff, pure_eq, Except.ok.injEq, Option.bind_eq_some_iff, true_and,
      reduceCtorEq, false_and, or_false]
    constructor
    · rintro ⟨_, h, key, rfl, hx⟩
      exact ⟨key, h, hx⟩
    · rintro ⟨key, h, hx⟩
      exact ⟨some key, h, key, rfl, hx⟩
  | octets =>
    simp only [bind_eq_ok_iff, lift_eq_ok_iff, pure_eq, Except.ok.injEq, true_and, reduceCtorEq,
      false_and, false_or]
  | ellipticCurve | octetPair | other => simp

end Signer

theorem Verifier.ofJwk_eq_some_iff {x : Verifier} :
    Verifier.ofJwk kid k = .ok (some x) ↔
      (k.kind = .rsa ∧ (∃ key, k.rsaPublicKey = .ok key) ∧ ∃ n e,
        strictMember kid k.n = .ok n ∧ strictMember kid k.e = .ok e ∧
        x = ⟨kid, .rsa ⟨n, e⟩, SignatureAlgorithm.rsa⟩) ∨
      (k.kind = .octets ∧ ∃ secret, k.sharedSecret = .ok secret ∧
        SignatureAlgorithm.forSecretLength secret.length ≠ [] ∧
        x = ⟨kid, .secret secret, SignatureAlgorithm.forSecretLength secret.length⟩) := by
  rw [Verifier.ofJwk]
  cases k.kind with
  | rsa =>
    simp only [bind_eq_ok_iff, pure_eq, Except.ok.injEq, Option.some.injEq, true_and, reduceCtorEq,
      false_and, or_false, exists_and_left, exists_and_right, eq_comm (a := x)]
  | octets =>
    simp only [bind_eq_ok_iff, true_and, reduceCtorEq, false_and, false_or]
    refine exists_congr fun secret ↦ and_congr_right fun _ ↦ ?_
    cases SignatureAlgorithm.forSecretLength secret.length with
    | nil => simp
    | cons a listed => simp [eq_comm (a := x)]
  | ellipticCurve | octetPair | other => simp

theorem Capabilities.ofJwk_eq_ok_iff {c : Capabilities} :
    Capabilities.ofJwk kid k = .ok c ↔
      Encrypter.ofJwk kid k = .ok c.encrypter ∧ Decrypter.ofJwk kid k = .ok c.decrypter ∧
        Signer.ofJwk kid k = .ok c.signer ∧ Verifier.ofJwk kid k = .ok c.verifier := by
  simp only [Capabilities.ofJwk, bind_eq_ok_iff, lift_eq_ok_iff, pure_eq, Except.ok.injEq]
  constructor
  · rintro ⟨e, he, d, hd, s, hs, v, hv, rfl⟩
    exact ⟨he, hd, hs, hv⟩
  · rintro ⟨he, hd, hs, hv⟩
    exact ⟨c.encrypter, he, c.decrypter, hd, c.signer, hs, c.verifier, hv, rfl⟩

/-! ## Capabilities under their ids -/

theorem Capabilities.keys_ofEntries {entries : List (String × Jwk)}
    {cs : List (String × Capabilities)} (h : ofEntries entries = .ok cs) :
    cs.map Prod.fst = entries.map Prod.fst := by
  induction entries generalizing cs with
  | nil =>
    obtain rfl := Except.ok.inj h
    rfl
  | cons entry entries ih =>
    obtain ⟨kid, k⟩ := entry
    obtain ⟨c, -, h⟩ := bind_eq_ok_iff.1 h
    obtain ⟨cs, hcs, h⟩ := bind_eq_ok_iff.1 h
    obtain rfl := Except.ok.inj h
    rw [List.map_cons, List.map_cons, ih hcs]

theorem Capabilities.lookup_ofEntries {entries : List (String × Jwk)}
    {cs : List (String × Capabilities)} (h : ofEntries entries = .ok cs) (kid : String) :
    (entries.lookup kid).map (ofJwk kid) = (cs.lookup kid).map .ok := by
  induction entries generalizing cs with
  | nil =>
    obtain rfl := Except.ok.inj h
    rfl
  | cons entry entries ih =>
    obtain ⟨l, k⟩ := entry
    obtain ⟨c, hc, h⟩ := bind_eq_ok_iff.1 h
    obtain ⟨cs, hcs, h⟩ := bind_eq_ok_iff.1 h
    obtain rfl := Except.ok.inj h
    rw [List.lookup_cons, List.lookup_cons]
    by_cases hk : kid = l
    · subst hk
      rw [beq_self_eq_true]
      exact congrArg some hc
    · rw [beq_false_of_ne hk]
      exact ih hcs

namespace Service

variable {ring : KeyRing} {defaults : Defaults} {s : Service}

/-- The capabilities are those of the keys in the ring. -/
def Built (s : Service) : Prop := Capabilities.ofEntries s.ring.entries = .ok s.capabilities

theorem of_build (h : build ring defaults = .ok s) :
    s.ring = ring ∧ s.defaults = defaults ∧ s.Built := by
  obtain ⟨cs, hcs, h⟩ := bind_eq_ok_iff.1 h
  obtain rfl := Except.ok.inj h
  exact ⟨rfl, rfl, hcs⟩

theorem lookup_capabilities_eq_some_iff (h : s.Built) {kid : String} {c : Capabilities} :
    s.capabilities.lookup kid = some c ↔
      ∃ k, s.ring.get? kid = some k ∧ Capabilities.ofJwk kid k = .ok c := by
  have hlookup := Capabilities.lookup_ofEntries h kid
  rw [KeyRing.get?]
  constructor
  · intro hc
    rw [hc] at hlookup
    exact Option.map_eq_some_iff.1 hlookup
  · rintro ⟨k, hk, hc⟩
    rw [hk, Option.map_some, hc] at hlookup
    obtain ⟨c', hc', heq⟩ := Option.map_eq_some_iff.1 hlookup.symm
    rw [hc', Except.ok.inj heq]

/-- Every key of a built service has capabilities. -/
theorem exists_ofJwk_of_get? (h : s.Built) {id : String} {k : Jwk} (hk : s.ring.get? id = some k) :
    ∃ c, Capabilities.ofJwk id k = .ok c := by
  have hlookup := Capabilities.lookup_ofEntries h id
  rw [← KeyRing.get?, hk] at hlookup
  obtain ⟨c, -, hc⟩ := Option.map_eq_some_iff.1 hlookup.symm
  exact ⟨c, hc.symm⟩

theorem lookup_able (h : s.Built) {α : Type} (what : Capabilities → Option α) (kid : String) :
    (s.able what).lookup kid = (s.capabilities.lookup kid).bind what := by
  refine Keyed.lookup_filterMap ?_ what kid
  rw [Capabilities.keys_ofEntries h]
  exact s.ring.ascending.nodup

theorem keys_able_subset (h : s.Built) {α : Type}
    (what : Capabilities → Option α) :
    (s.able what).map Prod.fst ⊆ s.ring.ids := by
  rw [KeyRing.ids, ← Capabilities.keys_ofEntries h]
  exact Keyed.keys_filterMap_subset what s.capabilities

/-- What is able to do something under an id was made from the key with this id, and from a key of
the ring everything was made that can be. -/
theorem lookup_able_eq_some_iff (h : s.Built) {α : Type} (what : Capabilities → Option α)
    (make : String → Jwk → Except Failure (Option α))
    (hmake : ∀ kid k c, Capabilities.ofJwk kid k = .ok c → make kid k = .ok (what c))
    (kid : String) (a : α) :
    (s.able what).lookup kid = some a ↔
      ∃ k, s.ring.get? kid = some k ∧ make kid k = .ok (some a) := by
  rw [lookup_able h, Option.bind_eq_some_iff]
  constructor
  · rintro ⟨c, hc, ha⟩
    obtain ⟨k, hk, hc⟩ := (lookup_capabilities_eq_some_iff h).1 hc
    refine ⟨k, hk, ?_⟩
    rw [hmake kid k c hc, ha]
  · rintro ⟨k, hk, ha⟩
    obtain ⟨c, hc⟩ := exists_ofJwk_of_get? h hk
    refine ⟨c, (lookup_capabilities_eq_some_iff h).2 ⟨k, hk, hc⟩, ?_⟩
    rw [hmake kid k c hc] at ha
    exact Except.ok.inj ha

theorem lookup_encrypters_eq_some_iff (h : s.Built) {kid : String} {x : Encrypter} :
    s.encrypters.lookup kid = some x ↔
      ∃ k, s.ring.get? kid = some k ∧ Encrypter.ofJwk kid k = .ok (some x) := by
  have hlookup := lookup_able_eq_some_iff h Capabilities.encrypter
    (fun kid k ↦ liftM (Encrypter.ofJwk kid k))
    (fun kid k c hc ↦ lift_eq_ok_iff.2 (Capabilities.ofJwk_eq_ok_iff.1 hc).1) kid x
  simp only [lift_eq_ok_iff] at hlookup
  exact hlookup

theorem lookup_decrypters_eq_some_iff (h : s.Built) {kid : String} {x : Decrypter} :
    s.decrypters.lookup kid = some x ↔
      ∃ k, s.ring.get? kid = some k ∧ Decrypter.ofJwk kid k = .ok (some x) :=
  lookup_able_eq_some_iff h Capabilities.decrypter Decrypter.ofJwk
    (fun _ _ _ hc ↦ (Capabilities.ofJwk_eq_ok_iff.1 hc).2.1) kid x

theorem lookup_signers_eq_some_iff (h : s.Built) {kid : String} {x : Signer} :
    s.signers.lookup kid = some x ↔
      ∃ k, s.ring.get? kid = some k ∧ Signer.ofJwk kid k = .ok (some x) :=
  lookup_able_eq_some_iff h Capabilities.signer Signer.ofJwk
    (fun _ _ _ hc ↦ (Capabilities.ofJwk_eq_ok_iff.1 hc).2.2.1) kid x

theorem lookup_verifiers_eq_some_iff (h : s.Built) {kid : String} {x : Verifier} :
    s.verifiers.lookup kid = some x ↔
      ∃ k, s.ring.get? kid = some k ∧ Verifier.ofJwk kid k = .ok (some x) := by
  have hlookup := lookup_able_eq_some_iff h Capabilities.verifier
    (fun kid k ↦ liftM (Verifier.ofJwk kid k))
    (fun kid k c hc ↦ lift_eq_ok_iff.2 (Capabilities.ofJwk_eq_ok_iff.1 hc).2.2.2) kid x
  simp only [lift_eq_ok_iff] at hlookup
  exact hlookup

/-! Every capability carries the id under which it is found. -/

section

variable {id : String}

theorem kid_of_lookup_encrypters (h : s.Built) {x : Encrypter}
    (hx : s.encrypters.lookup id = some x) : x.kid = id := by
  obtain ⟨k, -, hx⟩ := (lookup_encrypters_eq_some_iff h).1 hx
  rcases Encrypter.ofJwk_eq_some_iff.1 hx with ⟨-, key, -, rfl⟩ | ⟨-, secret, m, -, -, rfl⟩
  · rfl
  · rfl

theorem kid_of_lookup_decrypters (h : s.Built) {x : Decrypter}
    (hx : s.decrypters.lookup id = some x) : x.kid = id := by
  obtain ⟨k, -, hx⟩ := (lookup_decrypters_eq_some_iff h).1 hx
  rcases Decrypter.ofJwk_eq_some_iff.1 hx with ⟨-, key, -, rfl⟩ | ⟨-, secret, m, -, -, rfl⟩
  · rfl
  · rfl

theorem kid_of_lookup_signers (h : s.Built) {x : Signer}
    (hx : s.signers.lookup id = some x) : x.kid = id := by
  obtain ⟨k, -, hx⟩ := (lookup_signers_eq_some_iff h).1 hx
  rcases Signer.ofJwk_eq_some_iff.1 hx with ⟨-, key, -, hmake⟩ | ⟨-, secret, -, hmake⟩
  · obtain ⟨preferred, -, rfl⟩ := Signer.make?_eq_some_iff.1 hmake
    rfl
  · obtain ⟨preferred, -, rfl⟩ := Signer.make?_eq_some_iff.1 hmake
    rfl

theorem kid_of_lookup_verifiers (h : s.Built) {x : Verifier}
    (hx : s.verifiers.lookup id = some x) : x.kid = id := by
  obtain ⟨k, -, hx⟩ := (lookup_verifiers_eq_some_iff h).1 hx
  rcases Verifier.ofJwk_eq_some_iff.1 hx with ⟨-, -, n, e, -, -, rfl⟩ | ⟨-, secret, -, -, rfl⟩
  · rfl
  · rfl

end

/-- An operation is done with what stands under the id that the caller names, or else under the
default. -/
theorem resolve_eq_ok_iff {α : Type} {able : List (String × α)} {op : Operation}
    {named default : Option String} {a : α} :
    resolve able op named default = .ok a ↔
      ∃ kid, named.or default = some kid ∧ able.lookup kid = some a := by
  have hfind (kid : String) : resolve.find able op kid = .ok a ↔ able.lookup kid = some a := by
    rw [resolve.find]
    cases able.lookup kid <;> simp
  cases named with
  | some kid => simp [resolve, hfind]
  | none =>
    cases able with
    | nil => simp [resolve]
    | cons x able => cases default <;> simp [resolve, hfind]

end Service

/-! ## Rings of one key -/

/-- The ring that holds one key only. -/
def KeyRing.single (kid : String) (k : Jwk) : KeyRing := empty.insert kid k

theorem KeyRing.get?_single_eq_some_iff {kid id : String} {k k' : Jwk} :
    (single kid k).get? id = some k' ↔ id = kid ∧ { k with kid := some kid } = k' := by
  show List.lookup id [(kid, { k with kid := some kid })] = some k' ↔ _
  rw [List.lookup_cons, List.lookup_nil]
  by_cases hid : id = kid
  · subst hid
    rw [beq_self_eq_true]
    constructor
    · rintro ⟨⟩
      exact ⟨rfl, rfl⟩
    · rintro ⟨-, rfl⟩
      rfl
  · rw [beq_false_of_ne hid]
    constructor
    · rintro ⟨⟩
    · rintro ⟨h, -⟩
      exact absurd h hid

/-- A service for one key has this key by default, and its capabilities. -/
theorem Service.build_single {kid : String} {k : Jwk} {c : Capabilities} (defaults : Defaults)
    (h : Capabilities.ofJwk kid { k with kid := some kid } = .ok c) :
    build (KeyRing.single kid k) defaults = .ok ⟨.single kid k, defaults, [(kid, c)]⟩ := by
  have hentries : Capabilities.ofEntries (KeyRing.single kid k).entries = .ok [(kid, c)] := by
    show Capabilities.ofEntries [(kid, { k with kid := some kid })] = _
    rw [Capabilities.ofEntries, h, ok_bind]
    rfl
  rw [build, hentries, ok_bind]
  rfl

end SignOn.Jose
