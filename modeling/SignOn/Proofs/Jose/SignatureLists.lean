import SignOn.Proofs.Jose.KeySize
import SignOn.Proofs.Jose.PaddedNumbers

/-!
# Which algorithms a key signs and verifies by

A shared secret lists the algorithms that it is long enough for, an RSA key the six of its kind, and
no key lists any of the other kind. What is preferred is what the key itself hints at, if that is
listed; else it is the strongest algorithm of a shared secret, and the first one of an RSA key. The
verifier of a shared secret lists the same as its signer. That of an RSA key does so too, but there
are keys that have a signer and no verifier, because the private half is accepted where the public
numbers are not.
-/

namespace SignOn.Jose

open Crypto Outcome Text

/-! ## Names and hints -/

/-- A text is read as the value whose name it is, if the names stay apart when case is ignored. -/
theorem parseName_eq_ok_iff {α : Type} {all : List α} {name : α → String} (hall : ∀ a, a ∈ all)
    (hname : ∀ a b, EqFold (name a) (name b) → a = b) {s : String} {a : α} :
    parseName all name s = .ok a ↔ EqFold (trim s) (name a) := by
  rw [parseName]
  cases hfind : all.find? fun b ↦ EqFold (trim s) (name b) with
  | none =>
    have hnone := List.find?_eq_none.1 hfind a (hall a)
    rw [decide_eq_true_eq] at hnone
    exact iff_of_false (fun h ↦ by cases h) hnone
  | some b =>
    have hb : EqFold (trim s) (name b) := by simpa using List.find?_some hfind
    refine ⟨fun h ↦ ?_, fun ha ↦ ?_⟩
    · obtain rfl := Except.ok.inj h
      exact hb
    · rw [hname b a (hb.symm.trans ha)]

theorem SignatureAlgorithm.eq_of_eqFold (a b : SignatureAlgorithm) (h : EqFold a.name b.name) :
    a = b := by
  cases a <;> cases b <;> first | rfl | exact absurd h (by decide)

theorem SignatureAlgorithm.parse_eq_ok_iff {s : String} {a : SignatureAlgorithm} :
    parse s = .ok a ↔ EqFold (trim s) a.name :=
  parseName_eq_ok_iff mem_all eq_of_eqFold

/-- The key says that it is meant for an algorithm. -/
def Jwk.Hints (k : Jwk) (a : SignatureAlgorithm) : Prop :=
  ∃ s, k.alg = some s ∧ EqFold (trim s) a.name

/-- What a key prefers of the algorithms that are listed for it: what it hints at, if that is
listed, and else one with a property. -/
structure Jwk.Prefers (k : Jwk) (listed : List SignatureAlgorithm) (P : SignatureAlgorithm → Prop)
    (a : SignatureAlgorithm) : Prop where
  mem : a ∈ listed
  of_hints : ∀ b ∈ listed, k.Hints b → a = b
  of_not_hints : (∀ b ∈ listed, ¬k.Hints b) → P a

namespace Signer

variable {k : Jwk} {listed : List SignatureAlgorithm} {a : SignatureAlgorithm}

theorem preference?_of_hints (ha : k.Hints a) (hmem : a ∈ listed) :
    preference? k.alg listed = some a := by
  obtain ⟨s, hs, hfold⟩ := ha
  rw [preference?, hs, Option.bind_some, SignatureAlgorithm.parse_eq_ok_iff.2 hfold]
  exact if_pos hmem

theorem preference?_of_not_hints (hnot : ∀ b ∈ listed, ¬k.Hints b) :
    preference? k.alg listed = preference?.fallback listed := by
  rw [preference?]
  split
  · next b hb =>
    obtain ⟨s, hs, hparse⟩ := Option.bind_eq_some_iff.1 hb
    have hhints : k.Hints b :=
      ⟨s, hs, SignatureAlgorithm.parse_eq_ok_iff.1 (toOption_eq_some_iff.1 hparse)⟩
    exact if_neg fun hmem ↦ hnot b hmem hhints
  · rfl

theorem prefers_of_preference? {P : SignatureAlgorithm → Prop}
    (hfallback : ∀ b, preference?.fallback listed = some b → P b)
    (h : preference? k.alg listed = some a) : k.Prefers listed P a where
  mem := preference?_mem h
  of_hints b hb hhints := by
    rw [preference?_of_hints hhints hb] at h
    exact (Option.some.inj h).symm
  of_not_hints hnot := by
    rw [preference?_of_not_hints hnot] at h
    exact hfallback a h

end Signer

/-! ## Shared secrets -/

namespace SignatureAlgorithm

/-- No algorithm of the list has a longer digest. -/
def StrongestIn (listed : List SignatureAlgorithm) (a : SignatureAlgorithm) : Prop :=
  ∀ b ∈ listed, b.hash.length ≤ a.hash.length

/-- The list has the algorithms that a secret of this length is long enough for, the weakest
first. -/
structure ListedFor (n : Nat) (listed : List SignatureAlgorithm) : Prop where
  mem_iff : ∀ a, a ∈ listed ↔ a ∈ hmac ∧ ∃ least, a.minSecretLength? = some least ∧ least ≤ n
  sublist : listed.Sublist hmac

theorem listedFor_forSecretLength (n : Nat) : ListedFor n (forSecretLength n) :=
  ⟨fun _ ↦ mem_forSecretLength, List.filter_sublist⟩

theorem ListedFor.subset {m n : Nat} {listed listed' : List SignatureAlgorithm}
    (h : ListedFor m listed) (h' : ListedFor n listed') (hle : m ≤ n) : listed ⊆ listed' := by
  intro a ha
  obtain ⟨hhmac, least, hleast, hm⟩ := (h.mem_iff a).1 ha
  exact (h'.mem_iff a).2 ⟨hhmac, least, hleast, hm.trans hle⟩

theorem isHmac_of_mem_hmac {a : SignatureAlgorithm} (ha : a ∈ hmac) : a.isHmac = true := by
  revert a
  decide

theorem isHmac_of_mem_rsa {a : SignatureAlgorithm} (ha : a ∈ rsa) : a.isHmac = false := by
  revert a
  decide

/-- The last algorithm of a list that gets stronger is the strongest. -/
theorem ListedFor.strongestIn {n : Nat} {listed : List SignatureAlgorithm} (h : ListedFor n listed)
    {a : SignatureAlgorithm} (ha : Signer.preference?.fallback listed = some a) :
    StrongestIn listed a := by
  have hstronger : listed.Pairwise fun b c ↦ b.hash.length ≤ c.hash.length :=
    .sublist h.sublist (by decide)
  have hall : listed.all (·.isHmac) :=
    List.all_eq_true.2 fun b hb ↦ isHmac_of_mem_hmac (h.sublist.subset hb)
  rw [Signer.preference?.fallback, if_pos hall] at ha
  obtain ⟨before, rfl⟩ := List.getLast?_eq_some_iff.1 ha
  obtain ⟨-, -, hle⟩ := List.pairwise_append.1 hstronger
  intro b hb
  rcases List.mem_append.1 hb with hb | hb
  · exact hle b hb a (List.mem_singleton_self a)
  · rw [List.mem_singleton.1 hb]

end SignatureAlgorithm

section

variable {kid : String} {k : Jwk} {secret : Bytes}

theorem Signer.ofJwk_of_sharedSecret (kid : String) (hk : k.kind = .octets)
    (h : k.sharedSecret = .ok secret) :
    ofJwk kid k =
      .ok (make? kid k (.secret secret) (SignatureAlgorithm.forSecretLength secret.length)) := by
  rw [ofJwk, hk]
  simp only [h, lift_ok, ok_bind, pure_eq]

theorem Verifier.exists_ofJwk_of_sharedSecret (kid : String) (hk : k.kind = .octets)
    (h : k.sharedSecret = .ok secret) : ∃ x, ofJwk kid k = .ok x := by
  rw [ofJwk, hk]
  simp only [h, ok_bind]
  split
  · exact ⟨_, rfl⟩
  · exact ⟨_, rfl⟩

/-- How a key with a shared secret signs and verifies. Whether it does, and by which algorithms,
depends on the length of the secret alone. -/
structure Jwk.SecretSigns (kid : String) (k : Jwk) (secret : Bytes) : Prop where
  signer : ∃ x, Signer.ofJwk kid k = .ok x ∧ (x.isSome ↔ 32 ≤ secret.length)
  verifier : ∃ x, Verifier.ofJwk kid k = .ok x ∧ (x.isSome ↔ 32 ≤ secret.length)
  signer_lists : ∀ x, Signer.ofJwk kid k = .ok (some x) →
    SignatureAlgorithm.ListedFor secret.length x.algorithms
  verifier_lists : ∀ x, Verifier.ofJwk kid k = .ok (some x) →
    SignatureAlgorithm.ListedFor secret.length x.algorithms
  prefers : ∀ x, Signer.ofJwk kid k = .ok (some x) →
    k.Prefers x.algorithms (SignatureAlgorithm.StrongestIn x.algorithms) x.preferred
  longer : ∀ (kid' : String) (k' : Jwk) (secret' : Bytes), k'.kind = .octets →
    k'.sharedSecret = .ok secret' → secret.length ≤ secret'.length →
      (∀ x y, Signer.ofJwk kid k = .ok (some x) → Signer.ofJwk kid' k' = .ok (some y) →
        x.algorithms ⊆ y.algorithms) ∧
      ∀ x y, Verifier.ofJwk kid k = .ok (some x) → Verifier.ofJwk kid' k' = .ok (some y) →
        x.algorithms ⊆ y.algorithms

/-- The signer of a shared secret lists what the secret is long enough for. -/
theorem Signer.lists_of_sharedSecret (hk : k.kind = .octets) (h : k.sharedSecret = .ok secret)
    {x : Signer} (hx : ofJwk kid k = .ok (some x)) :
    x.algorithms = SignatureAlgorithm.forSecretLength secret.length ∧
      preference? k.alg x.algorithms = some x.preferred := by
  rw [ofJwk_of_sharedSecret kid hk h] at hx
  obtain ⟨preferred, hpreferred, rfl⟩ := make?_eq_some_iff.1 (Except.ok.inj hx)
  exact ⟨rfl, hpreferred⟩

theorem Verifier.lists_of_sharedSecret (hk : k.kind = .octets) (h : k.sharedSecret = .ok secret)
    {x : Verifier} (hx : ofJwk kid k = .ok (some x)) :
    x.algorithms = SignatureAlgorithm.forSecretLength secret.length := by
  rcases ofJwk_eq_some_iff.1 hx with ⟨hrsa, -⟩ | ⟨-, secret', h', -, rfl⟩
  · rw [hk] at hrsa
    cases hrsa
  · rw [Except.ok.inj (h'.symm.trans h)]

theorem Jwk.secretSigns (kid : String) (hk : k.kind = .octets) (h : k.sharedSecret = .ok secret) :
    k.SecretSigns kid secret where
  signer := by
    have hx := Signer.ofJwk_of_sharedSecret kid hk h
    exact ⟨_, hx, by simp [Signer.isSome_ofJwk hx, hasSecret_iff hk h, hk]⟩
  verifier := by
    obtain ⟨x, hx⟩ := Verifier.exists_ofJwk_of_sharedSecret kid hk h
    exact ⟨x, hx, by simp [Verifier.isSome_ofJwk hx, hasSecret_iff hk h, hk]⟩
  signer_lists x hx := by
    rw [(Signer.lists_of_sharedSecret hk h hx).1]
    exact SignatureAlgorithm.listedFor_forSecretLength _
  verifier_lists x hx := by
    rw [Verifier.lists_of_sharedSecret hk h hx]
    exact SignatureAlgorithm.listedFor_forSecretLength _
  prefers x hx := by
    obtain ⟨hlisted, hpreferred⟩ := Signer.lists_of_sharedSecret hk h hx
    refine Signer.prefers_of_preference? (fun b hb ↦ ?_) hpreferred
    rw [hlisted] at hb ⊢
    exact (SignatureAlgorithm.listedFor_forSecretLength _).strongestIn hb
  longer kid' k' secret' hk' h' hle := by
    have hsubset := (SignatureAlgorithm.listedFor_forSecretLength secret.length).subset
      (SignatureAlgorithm.listedFor_forSecretLength secret'.length) hle
    refine ⟨fun x y hx hy ↦ ?_, fun x y hx hy ↦ ?_⟩
    · rwa [(Signer.lists_of_sharedSecret hk h hx).1, (Signer.lists_of_sharedSecret hk' h' hy).1]
    · rwa [Verifier.lists_of_sharedSecret hk h hx, Verifier.lists_of_sharedSecret hk' h' hy]

end

/-! ## RSA keys -/

section

variable {kid : String} {k : Jwk} {key : Rsa.PrivateKey}

/-- The private half is accepted whatever the size of the modulus, and the public half is not. -/
theorem Jwk.rsaPublicKey_of_rsaPrivateKey? (h : k.rsaPrivateKey? = .ok (some key)) :
    k.rsaPublicKey = if Rsa.PublicKey.maxBits < bitLength key.modulus
      then .error (.invalidKeyMaterial k.id "modulus too large") else .ok key.toPublic := by
  obtain ⟨hsound, hn, he⟩ := number_of_rsaPrivateKey? h
  have hcheck : Rsa.PublicKey.check ⟨key.modulus, key.exponent⟩ = .ok () := hsound.check
  by_cases hlarge : Rsa.PublicKey.maxBits < bitLength key.modulus
  · simp only [rsaPublicKey, hn, he, ok_bind, Rsa.PublicKey.ofNumbers, if_pos hlarge, error_bind]
    rfl
  · simp only [rsaPublicKey, hn, he, ok_bind, Rsa.PublicKey.ofNumbers, if_neg hlarge, hcheck]
    rfl

/-- How an RSA key with a private half signs and verifies. -/
structure Jwk.PrivateSigns (kid : String) (k : Jwk) (key : Rsa.PrivateKey) : Prop where
  signer : ∃ a, Signer.ofJwk kid k = .ok (some ⟨kid, .rsa key, SignatureAlgorithm.rsa, a⟩) ∧
    k.Prefers SignatureAlgorithm.rsa (· = .rs256) a
  verifier : ∀ x, Verifier.ofJwk kid k = .ok x →
    ∃ checking, x = some ⟨kid, checking, SignatureAlgorithm.rsa⟩
  exists_verifier_iff : (∃ x, Verifier.ofJwk kid k = .ok x) ↔
    bitLength key.modulus ≤ Rsa.PublicKey.maxBits ∧ k.paddedNumber? = none
  error_of_large : Rsa.PublicKey.maxBits < bitLength key.modulus →
    Verifier.ofJwk kid k = .error (.invalidKeyMaterial k.id "modulus too large")
  error_of_padded : bitLength key.modulus ≤ Rsa.PublicKey.maxBits → ∀ s,
    k.paddedNumber? = some s → ∃ fault, Base64Url.HasFault s fault ∧
      Verifier.ofJwk kid k = .error (Verifier.paddingError kid fault)

theorem Signer.exists_ofJwk_of_rsaPrivateKey? (kid : String) (hk : k.kind = .rsa)
    (h : k.rsaPrivateKey? = .ok (some key)) :
    ∃ a, ofJwk kid k = .ok (some ⟨kid, .rsa key, SignatureAlgorithm.rsa, a⟩) ∧
      k.Prefers SignatureAlgorithm.rsa (· = .rs256) a := by
  have hsome : (make? kid k (.rsa key) SignatureAlgorithm.rsa).isSome :=
    isSome_make?.2 (List.cons_ne_nil _ _)
  obtain ⟨x, hx⟩ := Option.isSome_iff_exists.1 hsome
  have hof := ofJwk_eq_some_iff.2 (.inl ⟨hk, key, h, hx⟩)
  obtain ⟨a, ha, rfl⟩ := make?_eq_some_iff.1 hx
  refine ⟨a, hof, prefers_of_preference? (fun b hb ↦ ?_) ha⟩
  exact (Option.some.inj hb).symm

theorem Verifier.ofJwk_of_large (kid : String) (hk : k.kind = .rsa)
    (h : k.rsaPrivateKey? = .ok (some key))
    (hlarge : Rsa.PublicKey.maxBits < bitLength key.modulus) :
    ofJwk kid k = .error (.invalidKeyMaterial k.id "modulus too large") := by
  rw [ofJwk, hk]
  simp only [Jwk.rsaPublicKey_of_rsaPrivateKey? h, if_pos hlarge, error_bind]

/-- The public numbers of a private key that is not too large are read as far as no padding stops
it. -/
theorem Verifier.ofJwk_of_small (kid : String) (hk : k.kind = .rsa)
    (h : k.rsaPrivateKey? = .ok (some key))
    (hsmall : bitLength key.modulus ≤ Rsa.PublicKey.maxBits) :
    (∃ v, ofJwk kid k = .ok v) ∧ k.paddedNumber? = none ∨
      ∃ s fault, k.paddedNumber? = some s ∧ Base64Url.HasFault s fault ∧
        ofJwk kid k = .error (paddingError kid fault) :=
  ofJwk_of_rsaPublicKey hk
    ((Jwk.rsaPublicKey_of_rsaPrivateKey? h).trans (if_neg (Nat.not_lt.2 hsmall)))

theorem Jwk.privateSigns (kid : String) (hk : k.kind = .rsa)
    (h : k.rsaPrivateKey? = .ok (some key)) : k.PrivateSigns kid key where
  signer := Signer.exists_ofJwk_of_rsaPrivateKey? kid hk h
  verifier x hx := by
    obtain ⟨y, rfl⟩ := Option.isSome_iff_exists.1 ((Verifier.isSome_ofJwk hx).2 (.inl hk))
    rcases Verifier.ofJwk_eq_some_iff.1 hx with ⟨-, -, n, e, -, -, rfl⟩ | ⟨hoctets, -⟩
    · exact ⟨_, rfl⟩
    · rw [hk] at hoctets
      cases hoctets
  exists_verifier_iff := by
    rcases lt_or_ge Rsa.PublicKey.maxBits (bitLength key.modulus) with hlarge | hsmall
    · simp [Verifier.ofJwk_of_large kid hk h hlarge, Nat.not_le.2 hlarge]
    · rcases Verifier.ofJwk_of_small kid hk h hsmall with ⟨hv, hplain⟩ | ⟨s, fault, hs, -, hv⟩
      · simp [hv, hplain, hsmall]
      · simp [hv, hs]
  error_of_large := Verifier.ofJwk_of_large kid hk h
  error_of_padded hsmall s hs := by
    rcases Verifier.ofJwk_of_small kid hk h hsmall with ⟨-, hplain⟩ | ⟨s', fault, hs', hfault, hv⟩
    · rw [hs] at hplain
      cases hplain
    · obtain rfl := Option.some.inj (hs.symm.trans hs')
      exact ⟨fault, hfault, hv⟩

end

/-! ## Both kinds of keys -/

/-- What is known of the algorithms that a key signs and verifies by. -/
structure Jwk.SignsAndVerifies (kid : String) (k : Jwk) : Prop where
  secret : ∀ secret, k.kind = .octets → k.sharedSecret = .ok secret → k.SecretSigns kid secret
  rsa : ∀ key, k.kind = .rsa → k.rsaPrivateKey? = .ok (some key) → k.PrivateSigns kid key
  signer : ∀ x, Signer.ofJwk kid k = .ok (some x) →
    x.preferred ∈ x.algorithms ∧ ∀ a ∈ x.algorithms, (a.isHmac = true ↔ k.kind = .octets)
  verifier : ∀ x, Verifier.ofJwk kid k = .ok (some x) →
    ∀ a ∈ x.algorithms, (a.isHmac = true ↔ k.kind = .octets)

/-- The algorithms of a key never cross over to the other kind. -/
theorem SignatureAlgorithm.isHmac_iff_of_rsa {k : Jwk} (hk : k.kind = .rsa)
    {a : SignatureAlgorithm} (ha : a ∈ rsa) : a.isHmac = true ↔ k.kind = .octets := by
  rw [isHmac_of_mem_rsa ha, hk]
  simp

theorem SignatureAlgorithm.isHmac_iff_of_octets {k : Jwk} (hk : k.kind = .octets) {n : Nat}
    {a : SignatureAlgorithm} (ha : a ∈ forSecretLength n) : a.isHmac = true ↔ k.kind = .octets :=
  iff_of_true (isHmac_of_mem_hmac (mem_forSecretLength.1 ha).1) hk

/-- Every key signs and verifies like this, under every id and with every hint. -/
theorem Jwk.signsAndVerifies (kid : String) (k : Jwk) : k.SignsAndVerifies kid where
  secret _ hk h := secretSigns kid hk h
  rsa _ hk h := privateSigns kid hk h
  signer x hx := by
    rcases Signer.ofJwk_eq_some_iff.1 hx with ⟨hk, key, -, hmake⟩ | ⟨hk, secret, -, hmake⟩
    all_goals obtain ⟨a, ha, rfl⟩ := Signer.make?_eq_some_iff.1 hmake
    · exact ⟨Signer.preference?_mem ha, fun _ ↦ SignatureAlgorithm.isHmac_iff_of_rsa hk⟩
    · exact ⟨Signer.preference?_mem ha, fun _ ↦ SignatureAlgorithm.isHmac_iff_of_octets hk⟩
  verifier x hx := by
    rcases Verifier.ofJwk_eq_some_iff.1 hx with
      ⟨hk, -, n, e, -, -, rfl⟩ | ⟨hk, secret, -, -, rfl⟩
    · exact fun _ ↦ SignatureAlgorithm.isHmac_iff_of_rsa hk
    · exact fun _ ↦ SignatureAlgorithm.isHmac_iff_of_octets hk

/-- A secret of 48 bytes follows its hint to the weaker of its two algorithms; a private half whose
public numbers are not padded has a verifier. -/
theorem Jwk.signsAndVerifies_sample :
    (∃ x, Signer.ofJwk "a" { ofSecret "a" (List.replicate 48 0) with alg := some " hs256 " } =
        .ok (some x) ∧ x.preferred = .hs256 ∧ .hs384 ∈ x.algorithms ∧ .hs512 ∉ x.algorithms) ∧
      ∃ x, Verifier.ofJwk "t" Service.textbookKey = .ok x := by
  constructor
  · have hlength : (List.replicate 48 (0 : UInt8)).length = 48 := List.length_replicate
    have hne := List.ne_nil_of_length_eq_add_one hlength
    generalize List.replicate 48 (0 : UInt8) = secret at hlength hne ⊢
    have hsecret : { ofSecret "a" secret with alg := some " hs256 " }.sharedSecret = .ok secret :=
      sharedSecret_of_encode rfl hne
    have hsigns := (signsAndVerifies "a" _).secret secret rfl hsecret
    obtain ⟨x, hx, hsome⟩ := hsigns.signer
    obtain ⟨y, rfl⟩ := Option.isSome_iff_exists.1 (hsome.2 (by omega))
    have hmem := (hsigns.signer_lists y hx).mem_iff
    rw [hlength] at hmem
    have hs256 : .hs256 ∈ y.algorithms := (hmem _).2 ⟨by decide, 32, rfl, by decide⟩
    have hs384 : .hs384 ∈ y.algorithms := (hmem _).2 ⟨by decide, 48, rfl, by decide⟩
    have hs512 : .hs512 ∉ y.algorithms := fun h ↦ by
      obtain ⟨-, least, ⟨⟩, hle⟩ := (hmem _).1 h
      exact absurd hle (by decide)
    exact ⟨y, hx, (hsigns.prefers y hx).of_hints _ hs256 ⟨_, rfl, by decide⟩, hs384, hs512⟩
  · have hprivate : Service.textbookKey.rsaPrivateKey? =
        .ok (some ⟨3233, 17, 413, 61, 53, 38⟩) := by decide +kernel
    refine ((signsAndVerifies "t" _).rsa _ rfl hprivate).exists_verifier_iff.2 ?_
    decide +kernel

/-- With its public numbers padded the key of the textbooks has a signer, which lists everything
that RSA keys can list, but no verifier. -/
theorem Verifier.ne_ok_of_signer :
    let k : Jwk := { Service.textbookKey with n := some "DKE=", e := some "EQ==" }
    k.kind = .rsa ∧ k.rsaPrivateKey? = .ok (some ⟨3233, 17, 413, 61, 53, 38⟩) ∧
      Signer.ofJwk "t" k =
        .ok (some ⟨"t", .rsa ⟨3233, 17, 413, 61, 53, 38⟩, SignatureAlgorithm.rsa, .rs256⟩) ∧
      ∀ x, Verifier.ofJwk "t" k ≠ .ok x := by
  intro k
  have hv : ofJwk "t" k =
      .error (.invalidKeyMaterial "t" "Base64 error: Invalid padding") := by decide +kernel
  refine ⟨rfl, by decide +kernel, by decide +kernel, fun x ↦ ?_⟩
  rw [hv]
  simp

end SignOn.Jose
