import SignOn.Proofs.Jose.Construction
import SignOn.Publication

/-!
# What a service says it is able to do

The lists of algorithms and methods that a service publishes are read off its keys: each entry takes
a key of some kind, or a shared secret of some length, and such a key is enough for it. Nothing else
matters, neither the order in which the keys come nor what is configured.
-/

namespace SignOn

open Jose Outcome

namespace Jose

/-- Some key of the ring has a property. -/
def KeyRing.Has (r : KeyRing) (P : Jwk → Prop) : Prop := ∃ id k, r.get? id = some k ∧ P k

/-! ## What one key contributes -/

namespace Jwk

/-- The key is of use to agree on content keys by an algorithm. -/
def Manages (k : Jwk) : KeyManagement → Prop
  | .rsaOaep256 => k.kind = .rsa
  | .direct => k.HasSecret fun n ↦ n = 16 ∨ n = 32

/-- The key is of use to encrypt by a method. -/
def Enciphers (k : Jwk) (m : ContentCipher) : Prop :=
  k.kind = .rsa ∨ k.HasSecret (· = m.keyLength)

/-- The key is of use to sign, or at least to verify, by an algorithm. -/
def Authenticates (k : Jwk) (a : SignatureAlgorithm) : Prop :=
  match a.minSecretLength? with
  | none => k.kind = .rsa
  | some least => k.HasSecret (least ≤ ·)

end Jwk

variable {kid : String} {k : Jwk}

theorem ContentCipher.exists_keyLength_iff {n : Nat} :
    (∃ m : ContentCipher, m.keyLength = n) ↔ n = 16 ∨ n = 32 := by
  rw [← isSome_ofKeyLength?, Option.isSome_iff_exists]
  simp only [ofKeyLength?_eq_some_iff]

theorem SignatureAlgorithm.mem_rsa_iff {a : SignatureAlgorithm} :
    a ∈ rsa ↔ a.minSecretLength? = none := by
  cases a <;> decide

theorem SignatureAlgorithm.mem_forSecretLength_iff {a : SignatureAlgorithm} {n : Nat} :
    a ∈ forSecretLength n ↔ ∃ least, a.minSecretLength? = some least ∧ least ≤ n := by
  rw [mem_forSecretLength, and_iff_right_of_imp]
  rintro ⟨least, hleast, -⟩
  cases a <;> first | decide | cases hleast

theorem Encrypter.exists_algorithm_iff {x : Option Encrypter} (hx : ofJwk kid k = .ok x)
    {a : KeyManagement} : (∃ y, x = some y ∧ a ∈ y.algorithms) ↔ k.Manages a := by
  rcases ofJwk_eq_ok hx with ⟨hk, key, rfl⟩ | ⟨hk, secret, hsecret, rfl⟩ | ⟨hrsa, hoctets, rfl⟩
  · cases a <;> simp [Jwk.Manages, Jwk.HasSecret, hk, algorithms]
  · cases a <;>
      simp [Jwk.Manages, Jwk.hasSecret_iff hk hsecret, hk, algorithms,
        ContentCipher.ofKeyLength?_eq_some_iff, ContentCipher.exists_keyLength_iff]
  · cases a <;> simp [Jwk.Manages, Jwk.HasSecret, hrsa, hoctets]

theorem Encrypter.exists_method_iff {x : Option Encrypter} (hx : ofJwk kid k = .ok x)
    {m : ContentCipher} : (∃ y, x = some y ∧ m ∈ y.methods) ↔ k.Enciphers m := by
  rcases ofJwk_eq_ok hx with ⟨hk, key, rfl⟩ | ⟨hk, secret, hsecret, rfl⟩ | ⟨hrsa, hoctets, rfl⟩
  · simp [Jwk.Enciphers, hk, methods, ContentCipher.mem_all]
  · simp [Jwk.Enciphers, Jwk.hasSecret_iff hk hsecret, hk, methods,
      ContentCipher.ofKeyLength?_eq_some_iff, eq_comm (a := secret.length)]
  · simp [Jwk.Enciphers, Jwk.HasSecret, hrsa, hoctets]

/-- A key that decrypts encrypts likewise, unless it is unsound. -/
theorem Decrypter.exists_encrypter {x : Option Encrypter} {y : Decrypter}
    (hx : Encrypter.ofJwk kid k = .ok x) (hy : ofJwk kid k = .ok (some y)) :
    ∃ x', x = some x' ∧ x'.algorithms = y.algorithms ∧ x'.methods = y.methods := by
  rcases ofJwk_eq_some_iff.1 hy with ⟨hk, key, -, rfl⟩ | ⟨hk, secret, m, hsecret, hm, rfl⟩
  · rcases Encrypter.ofJwk_eq_ok hx with ⟨-, key', rfl⟩ | ⟨hk', -⟩ | ⟨hrsa, -⟩
    · exact ⟨_, rfl, rfl, rfl⟩
    · cases hk.symm.trans hk'
    · exact absurd hk hrsa
  · have hx' : Encrypter.ofJwk kid k = .ok (some (.direct kid secret m)) :=
      Encrypter.ofJwk_eq_some_iff.2 (.inr ⟨hk, secret, m, hsecret, hm, rfl⟩)
    exact ⟨_, Except.ok.inj (hx.symm.trans hx'), rfl, rfl⟩

theorem Jwk.authenticates_iff_of_rsa (hk : k.kind = .rsa) {a : SignatureAlgorithm} :
    k.Authenticates a ↔ a ∈ SignatureAlgorithm.rsa := by
  rw [Authenticates, SignatureAlgorithm.mem_rsa_iff]
  cases a.minSecretLength? <;> simp [HasSecret, hk]

theorem Jwk.authenticates_iff_of_octets (hk : k.kind = .octets) {secret : Bytes}
    (h : k.sharedSecret = .ok secret) {a : SignatureAlgorithm} :
    k.Authenticates a ↔ a ∈ SignatureAlgorithm.forSecretLength secret.length := by
  rw [Authenticates, SignatureAlgorithm.mem_forSecretLength_iff]
  cases a.minSecretLength? <;> simp [hasSecret_iff hk h, hk]

theorem Jwk.not_authenticates (hrsa : k.kind ≠ .rsa) (hoctets : k.kind ≠ .octets)
    (a : SignatureAlgorithm) : ¬k.Authenticates a := by
  rw [Authenticates]
  cases a.minSecretLength? <;> simp [HasSecret, hrsa, hoctets]

theorem Verifier.exists_algorithm_iff {x : Option Verifier} (hx : ofJwk kid k = .ok x)
    {a : SignatureAlgorithm} : (∃ y, x = some y ∧ a ∈ y.algorithms) ↔ k.Authenticates a := by
  rcases ofJwk_eq_ok hx with
    ⟨hk, key, rfl⟩ | ⟨hk, secret, hsecret, ⟨hnil, rfl⟩ | ⟨-, rfl⟩⟩ | ⟨hrsa, hoctets, rfl⟩
  · simp [Jwk.authenticates_iff_of_rsa hk]
  · simp [Jwk.authenticates_iff_of_octets hk hsecret, hnil]
  · simp [Jwk.authenticates_iff_of_octets hk hsecret]
  · simp [Jwk.not_authenticates hrsa hoctets]

theorem Signer.authenticates {y : Signer} (hy : ofJwk kid k = .ok (some y)) :
    ∀ a ∈ y.algorithms, k.Authenticates a := by
  intro a ha
  rcases ofJwk_eq_some_iff.1 hy with ⟨hk, key, -, hmake⟩ | ⟨hk, secret, hsecret, hmake⟩
  all_goals obtain ⟨preferred, -, rfl⟩ := make?_eq_some_iff.1 hmake
  · exact (Jwk.authenticates_iff_of_rsa hk).2 ha
  · exact (Jwk.authenticates_iff_of_octets hk hsecret).2 ha

namespace Capabilities

variable {c : Capabilities} (h : ofJwk kid k = .ok c)

include h

theorem manages_iff {a : KeyManagement} :
    (∃ x, c.encrypter = some x ∧ a ∈ x.algorithms) ∨
        (∃ y, c.decrypter = some y ∧ a ∈ y.algorithms) ↔ k.Manages a := by
  obtain ⟨hencrypter, hdecrypter, -, -⟩ := ofJwk_eq_ok_iff.1 h
  rw [← Encrypter.exists_algorithm_iff hencrypter]
  refine or_iff_left_of_imp ?_
  rintro ⟨y, hy, ha⟩
  obtain ⟨x, hx, hlists, -⟩ := Decrypter.exists_encrypter hencrypter (hy ▸ hdecrypter)
  exact ⟨x, hx, hlists ▸ ha⟩

theorem enciphers_iff {m : ContentCipher} :
    (∃ x, c.encrypter = some x ∧ m ∈ x.methods) ∨
        (∃ y, c.decrypter = some y ∧ m ∈ y.methods) ↔ k.Enciphers m := by
  obtain ⟨hencrypter, hdecrypter, -, -⟩ := ofJwk_eq_ok_iff.1 h
  rw [← Encrypter.exists_method_iff hencrypter]
  refine or_iff_left_of_imp ?_
  rintro ⟨y, hy, hm⟩
  obtain ⟨x, hx, -, hlists⟩ := Decrypter.exists_encrypter hencrypter (hy ▸ hdecrypter)
  exact ⟨x, hx, hlists ▸ hm⟩

theorem authenticates_iff {a : SignatureAlgorithm} :
    (∃ x, c.signer = some x ∧ a ∈ x.algorithms) ∨
        (∃ y, c.verifier = some y ∧ a ∈ y.algorithms) ↔ k.Authenticates a := by
  obtain ⟨-, -, hsigner, hverifier⟩ := ofJwk_eq_ok_iff.1 h
  rw [Verifier.exists_algorithm_iff hverifier]
  refine or_iff_right_of_imp ?_
  rintro ⟨x, hx, ha⟩
  exact Signer.authenticates (hx ▸ hsigner) a ha

end Capabilities

/-! ## What all keys contribute -/

namespace Service

variable {ring : KeyRing} {defaults : Defaults} {s : Service}

theorem exists_able_iff (h : s.Built) {α : Type} {what : Capabilities → Option α} {P : α → Prop} :
    (∃ x ∈ s.able what, P x.2) ↔ ∃ id k c, s.ring.get? id = some k ∧
      Capabilities.ofJwk id k = .ok c ∧ ∃ a, what c = some a ∧ P a := by
  constructor
  · rintro ⟨⟨id, a⟩, hx, ha⟩
    have hlookup := lookup_of_mem_able h hx
    rw [lookup_able h] at hlookup
    obtain ⟨c, hc, hwhat⟩ := Option.bind_eq_some_iff.1 hlookup
    obtain ⟨k, hk, hc⟩ := (lookup_capabilities_eq_some_iff h).1 hc
    exact ⟨id, k, c, hk, hc, a, hwhat, ha⟩
  · rintro ⟨id, k, c, hk, hc, a, hwhat, ha⟩
    refine ⟨(id, a), Keyed.mem_of_lookup ?_, ha⟩
    rw [lookup_able h, (lookup_capabilities_eq_some_iff h).2 ⟨k, hk, hc⟩]
    exact hwhat

/-- What is listed for two capabilities together is what some key contributes to one of them. -/
theorem mem_union_able_iff (h : s.Built) {α β γ : Type} [DecidableEq γ] {all : List γ} {g : γ}
    (hall : g ∈ all) {what : Capabilities → Option α} {other : Capabilities → Option β}
    {lists : α → List γ} {lists' : β → List γ} {P : Jwk → Prop}
    (hP : ∀ kid k c, Capabilities.ofJwk kid k = .ok c →
      ((∃ x, what c = some x ∧ g ∈ lists x) ∨ (∃ y, other c = some y ∧ g ∈ lists' y) ↔ P k)) :
    g ∈ union all ((s.able what).map (lists ·.2) ++ (s.able other).map (lists' ·.2)) ↔
      s.ring.Has P := by
  have hmem : g ∈ union all ((s.able what).map (lists ·.2) ++ (s.able other).map (lists' ·.2)) ↔
      (∃ x ∈ s.able what, g ∈ lists x.2) ∨ ∃ y ∈ s.able other, g ∈ lists' y.2 := by
    simp only [union, List.mem_filter, hall, true_and, List.any_append, Bool.or_eq_true,
      List.any_map, List.any_eq_true, Function.comp_apply, decide_eq_true_eq]
  rw [hmem, exists_able_iff h (P := (g ∈ lists ·)), exists_able_iff h (P := (g ∈ lists' ·))]
  constructor
  · rintro (⟨id, k, c, hk, hc, hx⟩ | ⟨id, k, c, hk, hc, hy⟩)
    · exact ⟨id, k, hk, (hP id k c hc).1 (.inl hx)⟩
    · exact ⟨id, k, hk, (hP id k c hc).1 (.inr hy)⟩
  · rintro ⟨id, k, hk, hPk⟩
    obtain ⟨c, hc⟩ := exists_ofJwk_of_get? h hk
    rcases (hP id k c hc).2 hPk with hx | hy
    · exact .inl ⟨id, k, c, hk, hc, hx⟩
    · exact .inr ⟨id, k, c, hk, hc, hy⟩

theorem mem_supportedAlgorithms_iff (h : s.Built) {a : KeyManagement} :
    a ∈ s.supportedAlgorithms ↔ s.ring.Has (·.Manages a) :=
  mem_union_able_iff h (KeyManagement.mem_all a) fun _ _ _ hc ↦ Capabilities.manages_iff hc

theorem mem_supportedMethods_iff (h : s.Built) {m : ContentCipher} :
    m ∈ s.supportedMethods ↔ s.ring.Has (·.Enciphers m) :=
  mem_union_able_iff h (ContentCipher.mem_all m) fun _ _ _ hc ↦ Capabilities.enciphers_iff hc

theorem mem_supportedSigningAlgorithms_iff (h : s.Built) {a : SignatureAlgorithm} :
    a ∈ s.supportedSigningAlgorithms ↔ s.ring.Has (·.Authenticates a) :=
  mem_union_able_iff h (SignatureAlgorithm.mem_all a) fun _ _ _ hc ↦
    Capabilities.authenticates_iff hc

end Service

/-! ## The order of the keys -/

/-- The keys of a document make the same ring in every order. -/
theorem KeyRing.ofKeySet_of_perm {ring : KeyRing} {s s' : KeySet} (hperm : s'.keys.Perm s.keys)
    (h : ofKeySet s = .ok ring) : ofKeySet s' = .ok ring := by
  have hids (k : Jwk) (hk : k ∈ s.keys) : k.id ≠ "" := by
    intro hid
    obtain ⟨index, hmissing⟩ := exists_ofKeySet_eq_missingKeyId hk hid
    cases h.symm.trans hmissing
  rw [ofKeySet_of_ids hids] at h
  rw [ofKeySet_of_ids fun k hk ↦ hids k (hperm.mem_iff.1 hk)]
  exact (gathers_ofList _).of_perm ring h _ (hperm.map _)

theorem KeyRing.parse_of_perm {ring : KeyRing} {document document' : String} {s s' : KeySet}
    (hs : KeySet.decode.run document = .ok s) (hs' : KeySet.decode.run document' = .ok s')
    (hperm : s'.keys.Perm s.keys) (h : parse document = .ok ring) : parse document' = .ok ring := by
  rw [parse, hs] at h
  rw [parse, hs']
  exact ofKeySet_of_perm hperm h

/-! ## The lists -/

/-- The lists are determined by the keys. They follow the order in which the algorithms and methods
are declared, so nothing is listed twice. -/
structure KeyRing.Advertises (r : KeyRing) (algorithms : List KeyManagement)
    (methods : List ContentCipher) (signing : List SignatureAlgorithm) : Prop where
  algorithms_ascending : algorithms.Pairwise (·.ctorIdx < ·.ctorIdx)
  methods_ascending : methods.Pairwise (·.ctorIdx < ·.ctorIdx)
  signing_ascending : signing.Pairwise (·.ctorIdx < ·.ctorIdx)
  rsaOaep256_iff : .rsaOaep256 ∈ algorithms ↔ r.Has (·.kind = .rsa)
  direct_iff : .direct ∈ algorithms ↔ r.Has (·.HasSecret fun n ↦ n = 16 ∨ n = 32)
  a128gcm_iff : .a128gcm ∈ methods ↔ r.Has fun k ↦ k.kind = .rsa ∨ k.HasSecret (· = 16)
  a256gcm_iff : .a256gcm ∈ methods ↔ r.Has fun k ↦ k.kind = .rsa ∨ k.HasSecret (· = 32)
  rsa_iff : ∀ a ∈ SignatureAlgorithm.rsa, a ∈ signing ↔ r.Has (·.kind = .rsa)
  hs256_iff : .hs256 ∈ signing ↔ r.Has (·.HasSecret (32 ≤ ·))
  hs384_iff : .hs384 ∈ signing ↔ r.Has (·.HasSecret (48 ≤ ·))
  hs512_iff : .hs512 ∈ signing ↔ r.Has (·.HasSecret (64 ≤ ·))

namespace Service

variable {ring : KeyRing} {defaults : Defaults} {s : Service}

theorem advertises_of_built (h : s.Built) :
    s.ring.Advertises s.supportedAlgorithms s.supportedMethods s.supportedSigningAlgorithms where
  algorithms_ascending := .sublist List.filter_sublist (by decide)
  methods_ascending := .sublist List.filter_sublist (by decide)
  signing_ascending := .sublist List.filter_sublist (by decide)
  rsaOaep256_iff := mem_supportedAlgorithms_iff h
  direct_iff := mem_supportedAlgorithms_iff h
  a128gcm_iff := mem_supportedMethods_iff h
  a256gcm_iff := mem_supportedMethods_iff h
  rsa_iff a ha := by
    have hmem := mem_supportedSigningAlgorithms_iff h (a := a)
    simp only [Jwk.Authenticates, SignatureAlgorithm.mem_rsa_iff.1 ha] at hmem
    exact hmem
  hs256_iff := mem_supportedSigningAlgorithms_iff h
  hs384_iff := mem_supportedSigningAlgorithms_iff h
  hs512_iff := mem_supportedSigningAlgorithms_iff h

/-- Two services list the same, whoever publishes it. -/
structure ListsSame (s s' : Service) : Prop where
  algorithms : s.supportedAlgorithms = s'.supportedAlgorithms
  methods : s.supportedMethods = s'.supportedMethods
  signing : s.supportedSigningAlgorithms = s'.supportedSigningAlgorithms
  metadata : ∀ issuer, ProviderMetadata.ofService issuer s = ProviderMetadata.ofService issuer s'

/-- What is configured is not looked at. -/
theorem listsSame_of_build {defaults' : Defaults} (hs : build ring defaults = .ok s) :
    ∃ s', build ring defaults' = .ok s' ∧ s'.ListsSame s := by
  obtain ⟨cs, hcs, h⟩ := bind_eq_ok_iff.1 hs
  obtain rfl := Except.ok.inj h
  refine ⟨⟨ring, defaults', cs⟩, ?_, rfl, rfl, rfl, fun _ ↦ rfl⟩
  rw [build, hcs, ok_bind]
  rfl

/-- What a service publishes about itself is determined by its keys, whatever is configured and in
whatever order the keys stand in a document. -/
theorem advertised (hs : build ring defaults = .ok s) :
    ring.Advertises s.supportedAlgorithms s.supportedMethods s.supportedSigningAlgorithms ∧
    (∀ issuer, ring.Advertises (ProviderMetadata.ofService issuer s).encryptionAlgorithms
      (ProviderMetadata.ofService issuer s).encryptionMethods
      (ProviderMetadata.ofService issuer s).signingAlgorithms) ∧
    (∀ defaults', ∃ s', build ring defaults' = .ok s' ∧ s'.ListsSame s) ∧
    ∀ document document' keys keys', KeySet.decode.run document = .ok keys →
      KeySet.decode.run document' = .ok keys' → keys'.keys.Perm keys.keys →
        KeyRing.parse document = .ok ring → KeyRing.parse document' = .ok ring := by
  obtain ⟨rfl, -, hbuilt⟩ := of_build hs
  exact ⟨advertises_of_built hbuilt, fun _ ↦ advertises_of_built hbuilt,
    fun _ ↦ listsSame_of_build hs,
    fun _ _ _ _ hkeys hkeys' hperm h ↦ KeyRing.parse_of_perm hkeys hkeys' hperm h⟩

/-- A secret of 32 bytes is listed by one algorithm of each kind. -/
theorem advertised_sample :
    ∃ s, build (.single "a" (.ofSecret "a" (List.replicate 32 0))) .none = .ok s ∧
      .direct ∈ s.supportedAlgorithms ∧ .a256gcm ∈ s.supportedMethods ∧
      .hs256 ∈ s.supportedSigningAlgorithms ∧ .hs384 ∉ s.supportedSigningAlgorithms := by
  have hlength : (List.replicate 32 (0 : UInt8)).length = 32 := List.length_replicate
  have hsecret := Jwk.sharedSecret_ofSecret "a" (List.ne_nil_of_length_eq_add_one hlength)
  generalize List.replicate 32 (0 : UInt8) = secret at hlength hsecret ⊢
  have hs := build_ofSecret "a" hlength .none
  obtain ⟨hlists, -⟩ := advertised hs
  refine ⟨_, hs, hlists.direct_iff.2 ⟨"a", _, rfl, rfl, secret, hsecret, .inr hlength⟩,
    hlists.a256gcm_iff.2 ⟨"a", _, rfl, .inr ⟨rfl, secret, hsecret, hlength⟩⟩,
    hlists.hs256_iff.2 ⟨"a", _, rfl, rfl, secret, hsecret, hlength.ge⟩, fun h ↦ ?_⟩
  obtain ⟨id, k, hk, -, secret', hsecret', hle⟩ := hlists.hs384_iff.1 h
  obtain ⟨-, rfl⟩ := KeyRing.get?_single_eq_some_iff.1 hk
  obtain rfl : secret = secret' := Except.ok.inj (hsecret.symm.trans hsecret')
  rw [hlength] at hle
  exact absurd hle (by decide)

end Service

end Jose

end SignOn
