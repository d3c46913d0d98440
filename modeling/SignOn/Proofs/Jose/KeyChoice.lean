import SignOn.Proofs.Jose.Decryption
import SignOn.Proofs.Jose.KeyRing
import SignOn.Proofs.Jose.Signing

/-!
# Which key an operation is done with

All operations choose their key alike. The errors of the choice are not errors of what is done with
a key, so an operation that ends with one of them did nothing.
-/

namespace SignOn.Jose

open Json Outcome

/-- The errors with which the choice of a key ends. -/
inductive ChoiceError (op : Operation) : Error → Prop where
  | noUsableKeys : ChoiceError op (.noUsableKeys op)
  | noDefaultKey : ChoiceError op (.noDefaultKey op)
  | unknownKeyId (kid : String) : ChoiceError op (.unknownKeyId kid op)

/-! ## Errors of what is done with a key -/

theorem Encrypter.contentKey_eq_error {x : Encrypter} {r : Entropy} {method : ContentCipher}
    {e : Error} (h : x.contentKey r method = .error e) :
    ∃ reason, e = .encryptionFailed x.kid reason := by
  cases x with
  | rsa kid key =>
    rw [contentKey] at h
    split at h
    · cases h
    · exact ⟨_, (Except.error.inj h).symm⟩
  | direct kid secret m => cases h

theorem Encrypter.encrypt_eq_error {x : Encrypter} {r : Entropy} {plaintext : Bytes}
    {algorithm : KeyManagement} {method : ContentCipher} {contentType : Option String} {e : Error}
    (h : x.encrypt r plaintext algorithm method contentType = .error e) :
    (∃ name, e = .unsupportedAlgorithm name (some x.kid)) ∨
      ∃ reason, e = .encryptionFailed x.kid reason := by
  rw [encrypt] at h
  split at h
  · exact .inl ⟨_, (Except.error.inj h).symm⟩
  · split at h
    · exact .inl ⟨_, (Except.error.inj h).symm⟩
    · cases hkey : x.contentKey r method with
      | error e' =>
        rw [hkey, error_bind] at h
        obtain rfl := Except.error.inj h
        obtain ⟨reason, rfl⟩ := contentKey_eq_error hkey
        exact .inr ⟨reason, rfl⟩
      | ok key =>
        rw [hkey, ok_bind] at h
        dsimp only at h
        split at h
        · cases h
        · exact .inr ⟨_, (Except.error.inj h).symm⟩

theorem Signer.sign_eq_error {x : Signer} {r : Entropy} {claims : Value} {a : SignatureAlgorithm}
    {e : Error} (h : x.sign r claims a = .error e) :
    e = .unsupportedAlgorithm a.name (some x.kid) ∨
      ∃ reason, e = .signingFailed x.kid reason := by
  rw [sign] at h
  split at h
  · exact .inl (Except.error.inj h).symm
  · dsimp only at h
    split at h
    · cases h
    · exact .inr ⟨_, (Except.error.inj h).symm⟩

theorem Verifier.verify_eq_error {α : Type} {x : Verifier} {d : Decoder α} {token : String}
    {e : Error} (h : x.verify d token = .error e) :
    ∃ fault : VerificationFault, e = .verificationFailed x.kid fault.message := by
  rw [verify] at h
  split at h
  · cases h
  · next fault _ => exact ⟨fault, (Except.error.inj h).symm⟩

/-! ## What a choice is -/

/-- An operation is done with what stands under an id, or fails because nothing does. -/
structure Uses {α β : Type} (able : List (String × α)) (op : Operation) (id : String)
    (act : α → Except Error β) (result : Except Error β) : Prop where
  eq_act : ∀ x, able.lookup id = some x → result = act x
  unknownKeyId_iff : result = .error (.unknownKeyId id op) ↔ able.lookup id = none

/-- How an operation chooses among what is able to do it: the key that is named, or else the one
that is configured, or else the only key of the ring. -/
structure Chooses {α β : Type} (ring : KeyRing) (able : List (String × α)) (op : Operation)
    (named configured : Option String) (act : α → Except Error β) (result : Except Error β) :
    Prop where
  uses_named : ∀ id, named = some id → Uses able op id act result
  noUsableKeys_iff : named = none → (result = .error (.noUsableKeys op) ↔ able = [])
  noDefaultKey_iff : named = none → able ≠ [] →
    (result = .error (.noDefaultKey op) ↔ configured = none ∧ ring.size ≠ 1)
  uses_configured : named = none → able ≠ [] → ∀ id, configured = some id →
    Uses able op id act result
  unknownKeyId_iff : named = none → able ≠ [] → ∀ id,
    (result = .error (.unknownKeyId id op) ↔ configured = some id ∧ able.lookup id = none)
  uses_sole : named = none → able ≠ [] → configured = none → ∀ id, ring.ids = [id] →
    ∃ x, able.lookup id = some x ∧ result = act x
  uses_no_other : (∃ e, ChoiceError op e ∧ result = .error e) ∨
    ∃ id x, named.or (configured.or ring.soleId?) = some id ∧ able.lookup id = some x ∧
      result = act x

/-! ## Rings of one key -/

namespace KeyRing

variable {ring : KeyRing}

/-- What is able to do something under the ids of a ring of one key is found under its id. -/
theorem exists_lookup_of_soleId? {α : Type} {able : List (String × α)}
    (hable : able.map Prod.fst ⊆ ring.ids) (hne : able ≠ []) {id : String}
    (hid : ring.soleId? = some id) : ∃ x, able.lookup id = some x := by
  obtain ⟨⟨kid, a⟩, more, rfl⟩ := List.exists_cons_of_ne_nil hne
  have hmem : kid ∈ ring.ids := hable List.mem_cons_self
  rw [soleId?_eq_some_iff.1 hid, List.mem_singleton] at hmem
  exact ⟨a, by rw [hmem, List.lookup_cons_self]⟩

end KeyRing

/-! ## The choice -/

namespace Service

variable {α β : Type} {able : List (String × α)} {op : Operation}

theorem resolve_of_ne_nil (hne : able ≠ []) (default : Option String) :
    resolve able op none default =
      match default with
      | some id => resolve.find able op id
      | none => .error (.noDefaultKey op) := by
  rw [resolve.eq_def]
  exact if_neg (by simpa using hne)

theorem resolve_eq_error {named default : Option String} {e : Error}
    (h : resolve able op named default = .error e) : ChoiceError op e := by
  have hfind {id : String} (h : resolve.find able op id = .error e) : ChoiceError op e := by
    rw [resolve.find] at h
    split at h
    · cases h
    · obtain rfl := Except.error.inj h
      exact .unknownKeyId id
  cases named with
  | some id => exact hfind h
  | none =>
    by_cases hne : able = []
    · subst hne
      obtain rfl := Except.error.inj h
      exact .noUsableKeys
    · rw [resolve_of_ne_nil hne] at h
      cases default with
      | some id => exact hfind h
      | none =>
        obtain rfl := Except.error.inj h
        exact .noDefaultKey

section

variable {act : α → Except Error β} (hact : ∀ x e, act x = .error e → ¬ChoiceError op e)

include hact

theorem find_bind_eq_error_iff {id : String} {e : Error} (he : ChoiceError op e) :
    (resolve.find able op id >>= act) = .error e ↔
      able.lookup id = none ∧ e = .unknownKeyId id op := by
  rw [resolve.find]
  cases able.lookup id with
  | none => simp [eq_comm]
  | some x =>
    rw [ok_bind]
    constructor
    · exact fun h ↦ absurd he (hact x e h)
    · rintro ⟨⟨⟩, -⟩

theorem uses_find (id : String) : Uses able op id act (resolve.find able op id >>= act) where
  eq_act x hx := by rw [resolve.find, hx, ok_bind]
  unknownKeyId_iff := by
    rw [find_bind_eq_error_iff hact (.unknownKeyId id), and_iff_left rfl]

theorem resolve_bind_eq_noUsableKeys_iff {default : Option String} :
    (resolve able op none default >>= act) = .error (.noUsableKeys op) ↔ able = [] := by
  constructor
  · intro h
    by_contra hne
    rw [resolve_of_ne_nil hne] at h
    cases default with
    | some id => cases ((find_bind_eq_error_iff hact .noUsableKeys).1 h).2
    | none => cases h
  · rintro rfl
    rfl

theorem resolve_bind_eq_noDefaultKey_iff (hne : able ≠ []) {default : Option String} :
    (resolve able op none default >>= act) = .error (.noDefaultKey op) ↔ default = none := by
  rw [resolve_of_ne_nil hne]
  cases default with
  | some id => simp [find_bind_eq_error_iff hact .noDefaultKey]
  | none => simp

theorem resolve_bind_eq_unknownKeyId_iff (hne : able ≠ []) {default : Option String} {id : String} :
    (resolve able op none default >>= act) = .error (.unknownKeyId id op) ↔
      default = some id ∧ able.lookup id = none := by
  rw [resolve_of_ne_nil hne]
  cases default with
  | some id' =>
    rw [find_bind_eq_error_iff hact (.unknownKeyId id)]
    constructor
    · rintro ⟨hnone, ⟨⟩⟩
      exact ⟨rfl, hnone⟩
    · rintro ⟨⟨⟩, hnone⟩
      exact ⟨hnone, rfl⟩
  | none => simp

/-- The choice among what is able to do something under the ids of a ring. -/
theorem chooses_resolve {ring : KeyRing} (hable : able.map Prod.fst ⊆ ring.ids)
    (named configured : Option String) :
    Chooses ring able op named configured act
      (resolve able op named (configured.or ring.soleId?) >>= act) where
  uses_named := by
    rintro id rfl
    exact uses_find hact id
  noUsableKeys_iff := by
    rintro rfl
    exact resolve_bind_eq_noUsableKeys_iff hact
  noDefaultKey_iff := by
    rintro rfl hne
    rw [resolve_bind_eq_noDefaultKey_iff hact hne, Option.or_eq_none_iff,
      KeyRing.soleId?_eq_none_iff]
  uses_configured := by
    rintro rfl hne id rfl
    rw [resolve_of_ne_nil hne]
    exact uses_find hact id
  unknownKeyId_iff := by
    rintro rfl hne id
    rw [resolve_bind_eq_unknownKeyId_iff hact hne]
    cases configured with
    | some id' => rw [Option.some_or]
    | none =>
      -- the only key of the ring is able to do what some key is
      rw [Option.none_or]
      constructor
      · rintro ⟨hid, hnone⟩
        obtain ⟨x, hx⟩ := KeyRing.exists_lookup_of_soleId? hable hne hid
        rw [hx] at hnone
        cases hnone
      · rintro ⟨⟨⟩, -⟩
  uses_sole := by
    rintro rfl hne rfl id hids
    have hid := KeyRing.soleId?_eq_some_iff.2 hids
    obtain ⟨x, hx⟩ := KeyRing.exists_lookup_of_soleId? hable hne hid
    refine ⟨x, hx, ?_⟩
    rw [resolve_of_ne_nil hne, Option.none_or, hid]
    exact (uses_find hact id).eq_act x hx
  uses_no_other := by
    cases hresolve : resolve able op named (configured.or ring.soleId?) with
    | ok x =>
      obtain ⟨id, hid, hx⟩ := resolve_eq_ok_iff.1 hresolve
      exact .inr ⟨id, x, hid, hx, rfl⟩
    | error e => exact .inl ⟨e, resolve_eq_error hresolve, rfl⟩

end

variable {ring : KeyRing} {defaults : Defaults} {s : Service}

theorem defaultKeyId_eq (s : Service) (configured : Option String) :
    s.defaultKeyId configured = configured.or s.ring.soleId? := by
  cases configured <;> rfl

/-- Every operation chooses its key among the keys that are able to do it, by the key id that the
caller names and by the key id that is configured for it. Verification takes the id that the header
of the token names, if the caller names none, and the id that is configured for signing. -/
theorem chooses_key (hs : build ring defaults = .ok s) (kid : Option String) :
    (∀ r plaintext options, Chooses ring s.encrypters .encrypt kid defaults.encryptionKeyId
      (fun x ↦ x.encrypt r plaintext
        (choose options.algorithm defaults.encryptionAlgorithm x.preferred.1)
        (choose options.method defaults.encryptionMethod x.preferred.2) options.contentType)
      (s.encryptWith r plaintext kid options)) ∧
    (∀ r plaintext, Chooses ring s.encrypters .encrypt kid defaults.encryptionKeyId
      (fun x ↦ x.encrypt r plaintext (defaults.encryptionAlgorithm.getD x.preferred.1)
        (defaults.encryptionMethod.getD x.preferred.2) none)
      (s.encrypt r plaintext kid)) ∧
    (∀ token, Chooses ring s.decrypters .decrypt kid defaults.decryptionKeyId
      (fun x ↦ x.decrypt token) (s.decrypt token kid)) ∧
    (∀ r claims algorithm, Chooses ring s.signers .sign kid defaults.signingKeyId
      (fun x ↦ x.sign r claims (choose algorithm defaults.signingAlgorithm x.preferred))
      (s.sign r claims kid algorithm)) ∧
    (∀ (γ : Type) (d : Decoder γ) token, Chooses ring s.verifiers .verify
      (kid.or (headerKeyId token)) defaults.signingKeyId
      (fun x ↦ x.verify d token) (s.verify d token kid)) := by
  obtain ⟨rfl, rfl, hbuilt⟩ := of_build hs
  have hencrypt (r plaintext options) : Chooses s.ring s.encrypters .encrypt kid
      s.defaults.encryptionKeyId
      (fun x ↦ x.encrypt r plaintext
        (choose options.algorithm s.defaults.encryptionAlgorithm x.preferred.1)
        (choose options.method s.defaults.encryptionMethod x.preferred.2) options.contentType)
      (s.encryptWith r plaintext kid options) := by
    rw [encryptWith, defaultEncryptionKeyId, defaultKeyId_eq]
    refine chooses_resolve ?_ (keys_able_subset hbuilt _) kid _
    intro x e h hchoice
    rcases Encrypter.encrypt_eq_error h with ⟨name, rfl⟩ | ⟨reason, rfl⟩ <;> cases hchoice
  refine ⟨hencrypt, fun r plaintext ↦ hencrypt r plaintext .none, fun token ↦ ?_,
    fun r claims algorithm ↦ ?_, fun γ d token ↦ ?_⟩
  · rw [decrypt, defaultDecryptionKeyId, defaultKeyId_eq]
    refine chooses_resolve ?_ (keys_able_subset hbuilt _) kid _
    intro x e h hchoice
    obtain ⟨fault, rfl⟩ := Decrypter.decrypt_eq_error h
    cases hchoice
  · rw [sign, defaultSigningKeyId, defaultKeyId_eq]
    refine chooses_resolve ?_ (keys_able_subset hbuilt _) kid _
    intro x e h hchoice
    rcases Signer.sign_eq_error h with rfl | ⟨reason, rfl⟩ <;> cases hchoice
  · rw [verify, defaultSigningKeyId, defaultKeyId_eq]
    refine chooses_resolve ?_ (keys_able_subset hbuilt _) _ _
    intro x e h hchoice
    obtain ⟨fault, rfl⟩ := Verifier.verify_eq_error h
    cases hchoice

/-- Of two keys one decrypts, but it has to be named. -/
theorem chooses_key_sample :
    ∃ ring s x, KeyRing.ids ring = ["a", "b"] ∧ build ring .none = .ok s ∧
      s.decrypters = [("a", x)] ∧
      ∀ token, s.decrypt token none = .error (.noDefaultKey .decrypt) ∧
        s.decrypt token (some "a") = x.decrypt token ∧
        s.decrypt token (some "b") = .error (.unknownKeyId "b" .decrypt) := by
  let secret : Bytes := List.replicate 32 0
  let curve : Jwk := { Jwk.ofSecret "b" [] with kty := "EC", secret := .none }
  have hlength : secret.length = 32 := List.length_replicate
  have hs : build ((KeyRing.single "a" (.ofSecret "a" secret)).insert "b" curve) .none =
      .ok ⟨(KeyRing.single "a" (.ofSecret "a" secret)).insert "b" curve, .none,
        [("a", .ofSecret "a" secret), ("b", ⟨none, none, none, none⟩)]⟩ := by
    have hentries : Capabilities.ofEntries [("a", Jwk.ofSecret "a" secret), ("b", curve)] =
        .ok [("a", .ofSecret "a" secret), ("b", ⟨none, none, none, none⟩)] := by
      rw [Capabilities.ofEntries, Capabilities.ofJwk_ofSecret "a" hlength, ok_bind]
      rfl
    show (Capabilities.ofEntries [("a", Jwk.ofSecret "a" secret), ("b", curve)] >>= _) = _
    rw [hentries, ok_bind]
    rfl
  refine ⟨_, _, .direct "a" secret .a256gcm, rfl, hs, rfl, fun token ↦ ?_⟩
  have hdefault := (chooses_key hs none).2.2.1 token
  have hable := (chooses_key hs (some "a")).2.2.1 token
  have hother := (chooses_key hs (some "b")).2.2.1 token
  refine ⟨(hdefault.noDefaultKey_iff rfl (List.cons_ne_nil _ _)).2 ⟨rfl, by decide⟩,
    (hable.uses_named "a" rfl).eq_act _ rfl, (hother.uses_named "b" rfl).unknownKeyId_iff.2 rfl⟩

end Service

end SignOn.Jose
