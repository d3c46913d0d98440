import SignOn.Proofs.Jose.Encryption
import SignOn.Proofs.Jose.KeyChoice
import SignOn.Proofs.Jose.SharedSecret

/-!
# Which algorithm an operation is done with

The algorithm is what the caller asks for, or else what is configured, or else what the key prefers.
A key that does not have it in its list is the reason of an error; nothing else is tried. What a key
prefers is always in its list, so the error takes a choice that somebody made.
-/

namespace SignOn.Jose

open Json Outcome Text

/-- The first segment of a token is the header. -/
def EncryptionHeader.Heads (h : EncryptionHeader) (token : String) : Prop :=
  ∃ segment rest bs, Dotted.split token = segment :: rest ∧ Base64Url.decode segment = .ok bs ∧
    decode.runBytes bs = .ok h

theorem HasForm.heads {token : String} {h : EncryptionHeader} {plaintext : Bytes}
    (hform : HasForm token h plaintext) : h.Heads token := by
  obtain ⟨wrapped, nonce, ciphertext, tag, hsplit, -⟩ := hform
  exact ⟨_, _, _, hsplit, Base64Url.decode_encode _, h.decode_toJson⟩

/-! ## Keys -/

/-- No method is called like an algorithm. -/
theorem KeyManagement.name_ne (a : KeyManagement) (m : ContentCipher) : a.name ≠ m.name := by
  cases a <;> cases m <;> decide

namespace Encrypter

variable {x : Encrypter} {r : Entropy} {plaintext : Bytes} {algorithm : KeyManagement}
  {method : ContentCipher} {contentType : Option String}

theorem preferred_mem (x : Encrypter) :
    x.preferred.1 ∈ x.algorithms ∧ x.preferred.2 ∈ x.methods := by
  cases x with
  | rsa kid key => exact ⟨List.mem_singleton_self _, ContentCipher.mem_all _⟩
  | direct kid secret m => exact ⟨List.mem_singleton_self _, List.mem_singleton_self _⟩

/-- With an algorithm and a method from the lists the encryption itself may fail, but no more. -/
theorem encrypt_of_mem (halgorithm : algorithm ∈ x.algorithms) (hmethod : method ∈ x.methods)
    {e : Error} (h : x.encrypt r plaintext algorithm method contentType = .error e) :
    ∃ reason, e = .encryptionFailed x.kid reason := by
  rw [encrypt, if_neg (not_not_intro halgorithm), if_neg (not_not_intro hmethod)] at h
  rcases bind_eq_error_iff.1 h with hkey | ⟨⟨content, wrapped⟩, -, h⟩
  · exact contentKey_eq_error hkey
  · dsimp only at h
    split at h
    · cases h
    · exact ⟨_, (Except.error.inj h).symm⟩

/-- The algorithm is looked at first, and the method only if there is nothing wrong with it. -/
theorem encrypt_eq_unsupported_iff {name : String} {kid : Option String} :
    x.encrypt r plaintext algorithm method contentType = .error (.unsupportedAlgorithm name kid) ↔
      kid = some x.kid ∧ (algorithm ∉ x.algorithms ∧ name = algorithm.name ∨
        algorithm ∈ x.algorithms ∧ method ∉ x.methods ∧ name = method.name) := by
  by_cases halgorithm : algorithm ∈ x.algorithms
  · by_cases hmethod : method ∈ x.methods
    · constructor
      · intro h
        obtain ⟨reason, ⟨⟩⟩ := encrypt_of_mem halgorithm hmethod h
      · simp [halgorithm, hmethod]
    · rw [encrypt, if_neg (not_not_intro halgorithm), if_pos hmethod]
      simp [halgorithm, hmethod, eq_comm, and_comm]
  · rw [encrypt, if_pos halgorithm]
    simp [halgorithm, eq_comm, and_comm]

end Encrypter

theorem Signer.sign_eq_unsupported_iff {x : Signer} {r : Entropy} {claims : Value}
    {a : SignatureAlgorithm} {name : String} {kid : Option String} :
    x.sign r claims a = .error (.unsupportedAlgorithm name kid) ↔
      kid = some x.kid ∧ a ∉ x.algorithms ∧ name = a.name := by
  by_cases ha : a ∈ x.algorithms
  · rw [sign, if_neg (not_not_intro ha)]
    dsimp only
    split <;> simp [ha]
  · rw [sign, if_pos ha]
    simp [ha, eq_comm, and_comm]

/-- What a key prefers to sign with is in its list. -/
theorem Service.preferred_mem {s : Service} (hbuilt : s.Built) {id : String} {x : Signer}
    (hx : s.signers.lookup id = some x) : x.preferred ∈ x.algorithms := by
  obtain ⟨k, -, hx⟩ := (lookup_signers_eq_some_iff hbuilt).1 hx
  have hmake {key : SigningKey} {listed : List SignatureAlgorithm}
      (h : Signer.make? id k key listed = some x) : x.preferred ∈ x.algorithms := by
    obtain ⟨preferred, hpreferred, rfl⟩ := Signer.make?_eq_some_iff.1 h
    exact Signer.preference?_mem hpreferred
  rcases Signer.ofJwk_eq_some_iff.1 hx with ⟨-, key, -, h⟩ | ⟨-, secret, -, h⟩
  · exact hmake h
  · exact hmake h

/-! ## Operations -/

/-- The key that is found under an id encrypts by an algorithm and a method, or not at all. -/
structure EncryptsBy (id : String) (x : Encrypter) (alg : KeyManagement) (enc : ContentCipher)
    (answer : Except Error EncryptedToken) : Prop where
  unsupported_alg_iff : answer = .error (.unsupportedAlgorithm alg.name (some id)) ↔
    alg ∉ x.algorithms
  unsupported_enc_iff : alg ∈ x.algorithms →
    (answer = .error (.unsupportedAlgorithm enc.name (some id)) ↔ enc ∉ x.methods)
  no_other : ∀ name kid, answer = .error (.unsupportedAlgorithm name kid) →
    kid = some id ∧ (name = alg.name ∨ name = enc.name)
  token : ∀ t, answer = .ok t → t.keyId = id ∧ t.algorithm = alg ∧ t.method = enc ∧
    ∃ h : EncryptionHeader, h.Heads t.compact ∧ h.alg = alg ∧ h.enc = enc ∧ h.kid = some id

/-- The key that is found under an id signs by an algorithm, or not at all. -/
structure SignsBy (id : String) (x : Signer) (alg : SignatureAlgorithm)
    (answer : Except Error SignedToken) : Prop where
  unsupported_iff : (∃ name kid, answer = .error (.unsupportedAlgorithm name kid)) ↔
    alg ∉ x.algorithms
  no_other : ∀ name kid, answer = .error (.unsupportedAlgorithm name kid) →
    kid = some id ∧ name = alg.name
  token : ∀ t, answer = .ok t → t.keyId = id ∧ t.algorithm = alg ∧
    SignatureHeader.ofToken t.compact = .ok ⟨.supported alg, some id⟩

namespace Service

variable {ring : KeyRing} {defaults : Defaults} {s : Service} {r : Entropy} {plaintext : Bytes}
  {claims : Value} {kid : Option String} {options : EncryptOptions}
  {algorithm : Option SignatureAlgorithm} {id : String}

/-- An algorithm that is not supported is not what a choice of keys ends with. -/
theorem exists_of_unsupported {α β : Type} {able : List (String × α)} {op : Operation}
    {default : Option String} {act : α → Except Error β} {name : String} {kid' : Option String}
    (h : (resolve able op kid default >>= act) = .error (.unsupportedAlgorithm name kid')) :
    ∃ id x, kid.or default = some id ∧ able.lookup id = some x ∧
      act x = .error (.unsupportedAlgorithm name kid') := by
  rcases bind_eq_error_iff.1 h with h | ⟨x, hx, h⟩
  · cases resolve_eq_error h
  · obtain ⟨id, hid, hx⟩ := resolve_eq_ok_iff.1 hx
    exact ⟨id, x, hid, hx, h⟩

theorem encryptsBy (hbuilt : s.Built) {x : Encrypter}
    (hid : kid.or s.defaultEncryptionKeyId = some id) (hx : s.encrypters.lookup id = some x) :
    EncryptsBy id x (choose options.algorithm s.defaults.encryptionAlgorithm x.preferred.1)
      (choose options.method s.defaults.encryptionMethod x.preferred.2)
      (s.encryptWith r plaintext kid options) := by
  have hkid : x.kid = id := kid_of_lookup_encrypters hbuilt hx
  rw [encryptWith, resolve_eq_ok_iff.2 ⟨id, hid, hx⟩, ok_bind]
  generalize choose options.algorithm s.defaults.encryptionAlgorithm x.preferred.1 = alg
  generalize choose options.method s.defaults.encryptionMethod x.preferred.2 = enc
  refine ⟨?_, fun halg ↦ ?_, fun name kid' h ↦ ?_, fun t h ↦ ?_⟩
  · simp [Encrypter.encrypt_eq_unsupported_iff, hkid, KeyManagement.name_ne]
  · simp [Encrypter.encrypt_eq_unsupported_iff, hkid, halg]
  · obtain ⟨rfl, hname⟩ := Encrypter.encrypt_eq_unsupported_iff.1 h
    exact ⟨congrArg some hkid, hname.imp And.right fun h ↦ h.2.2⟩
  · have hheads := (Encrypter.hasForm_of_encrypt h).heads
    obtain ⟨-, -, content, wrapped, sealed, -, -, rfl⟩ := Encrypter.encrypt_eq_ok h
    exact ⟨hkid, rfl, rfl, _, hheads, rfl, rfl, congrArg some hkid⟩

theorem signsBy (hbuilt : s.Built) {x : Signer}
    (hid : kid.or s.defaultSigningKeyId = some id) (hx : s.signers.lookup id = some x) :
    SignsBy id x (choose algorithm s.defaults.signingAlgorithm x.preferred)
      (s.sign r claims kid algorithm) := by
  have hkid : x.kid = id := kid_of_lookup_signers hbuilt hx
  rw [sign, resolve_eq_ok_iff.2 ⟨id, hid, hx⟩, ok_bind]
  generalize choose algorithm s.defaults.signingAlgorithm x.preferred = alg
  refine ⟨?_, fun name kid' h ↦ ?_, fun t h ↦ ?_⟩
  · simp [Signer.sign_eq_unsupported_iff]
  · obtain ⟨rfl, -, hname⟩ := Signer.sign_eq_unsupported_iff.1 h
    exact ⟨congrArg some hkid, hname⟩
  · have hheader := SignatureHeader.ofToken_of_sign h
    obtain ⟨-, signature, -, rfl⟩ := Signer.sign_eq_ok h
    rw [← hkid]
    exact ⟨rfl, rfl, hheader⟩

/-- What is signed when nothing is named is signed by the algorithm that is told. -/
theorem defaultSigningAlgorithm_of_sign (hbuilt : s.Built) {t : SignedToken}
    (h : s.sign r claims none none = .ok t) : s.defaultSigningAlgorithm = some t.algorithm := by
  obtain ⟨hid, ⟨x, hx, hchosen⟩, -⟩ := token_of_sign hbuilt h
  rw [Option.none_or] at hid
  rw [hchosen, defaultSigningAlgorithm, choose, Option.none_or]
  cases s.defaults.signingAlgorithm with
  | some a => rfl
  | none =>
    dsimp only
    rw [hid, Option.bind_some, hx]
    rfl

/-- What keys prefer they support. -/
theorem encryptWith_ne_unsupported (halgorithm : s.defaults.encryptionAlgorithm = none)
    (hmethod : s.defaults.encryptionMethod = none) (contentType : Option String) (name : String)
    (kid' : Option String) :
    s.encryptWith r plaintext kid ⟨none, none, contentType⟩ ≠
      .error (.unsupportedAlgorithm name kid') := by
  intro h
  obtain ⟨id, x, -, -, h⟩ := exists_of_unsupported h
  rw [halgorithm, hmethod] at h
  obtain ⟨-, ⟨hnot, -⟩ | ⟨-, hnot, -⟩⟩ := Encrypter.encrypt_eq_unsupported_iff.1 h
  · exact hnot x.preferred_mem.1
  · exact hnot x.preferred_mem.2

theorem sign_ne_unsupported (hbuilt : s.Built) (halgorithm : s.defaults.signingAlgorithm = none)
    (name : String) (kid' : Option String) :
    s.sign r claims kid none ≠ .error (.unsupportedAlgorithm name kid') := by
  intro h
  obtain ⟨id, x, -, hx, h⟩ := exists_of_unsupported h
  rw [halgorithm] at h
  obtain ⟨-, hnot, -⟩ := Signer.sign_eq_unsupported_iff.1 h
  exact hnot (preferred_mem hbuilt hx)

/-- A service with such defaults encrypts by the algorithm that is asked for, or else the configured
one, or else the one that the key prefers, and likewise by a method; it signs likewise. -/
structure KeepsAlgorithms (s : Service) (defaults : Defaults) : Prop where
  encryptsBy : ∀ r plaintext kid options id x, kid.or s.defaultEncryptionKeyId = some id →
    s.encrypters.lookup id = some x →
      EncryptsBy id x ((options.algorithm.or defaults.encryptionAlgorithm).getD x.preferred.1)
        ((options.method.or defaults.encryptionMethod).getD x.preferred.2)
        (s.encryptWith r plaintext kid options)
  exists_encrypter : ∀ r plaintext kid options name kid',
    s.encryptWith r plaintext kid options = .error (.unsupportedAlgorithm name kid') →
      ∃ id x, kid.or s.defaultEncryptionKeyId = some id ∧ s.encrypters.lookup id = some x
  signsBy : ∀ r claims kid algorithm id x, kid.or s.defaultSigningKeyId = some id →
    s.signers.lookup id = some x →
      SignsBy id x ((algorithm.or defaults.signingAlgorithm).getD x.preferred)
        (s.sign r claims kid algorithm)
  exists_signer : ∀ r claims kid algorithm name kid',
    s.sign r claims kid algorithm = .error (.unsupportedAlgorithm name kid') →
      ∃ id x, kid.or s.defaultSigningKeyId = some id ∧ s.signers.lookup id = some x
  defaultSigningAlgorithm : ∀ r claims t, s.sign r claims none none = .ok t →
    s.defaultSigningAlgorithm = some t.algorithm
  encrypts_preferred : defaults.encryptionAlgorithm = none → defaults.encryptionMethod = none →
    ∀ r plaintext kid contentType name kid',
      s.encryptWith r plaintext kid ⟨none, none, contentType⟩ ≠
        .error (.unsupportedAlgorithm name kid')
  signs_preferred : defaults.signingAlgorithm = none → ∀ r claims kid name kid',
    s.sign r claims kid none ≠ .error (.unsupportedAlgorithm name kid')

/-- Algorithms are never substituted: one that was chosen and that the key does not list is an
error, which takes a key that was found. What signs when nothing is named is what the service tells,
and what nobody chose is supported. -/
theorem never_substitutes (hs : build ring defaults = .ok s) : s.KeepsAlgorithms defaults := by
  obtain ⟨-, rfl, hbuilt⟩ := of_build hs
  refine ⟨fun r plaintext kid options id x hid hx ↦ encryptsBy hbuilt hid hx,
    fun r plaintext kid options name kid' h ↦ ?_,
    fun r claims kid algorithm id x hid hx ↦ signsBy hbuilt hid hx,
    fun r claims kid algorithm name kid' h ↦ ?_,
    fun r claims t ↦ defaultSigningAlgorithm_of_sign hbuilt,
    fun halgorithm hmethod r plaintext kid contentType name kid' ↦
      encryptWith_ne_unsupported halgorithm hmethod contentType name kid',
    fun halgorithm r claims kid name kid' ↦ sign_ne_unsupported hbuilt halgorithm name kid'⟩
  · obtain ⟨id, x, hid, hx, -⟩ := exists_of_unsupported h
    exact ⟨id, x, hid, hx⟩
  · obtain ⟨id, x, hid, hx, -⟩ := exists_of_unsupported h
    exact ⟨id, x, hid, hx⟩

/-- A secret of 32 bytes refuses the method that is configured and the algorithm that is asked for,
and uses its own if it may. -/
theorem never_substitutes_sample :
    ∃ s, build (.single "a" (.ofSecret "a" (List.replicate 32 0)))
        { Defaults.none with encryptionMethod := some .a128gcm } = .ok s ∧
      s.encryptWith .zeros [] none .none = .error (.unsupportedAlgorithm "A128GCM" (some "a")) ∧
      (∃ name kid, s.sign .zeros .null none (some .rs256) =
        .error (.unsupportedAlgorithm name kid)) ∧
      s.sign .zeros .null none none ≠ .error (.unsupportedAlgorithm "HS256" (some "a")) := by
  have hlength : (List.replicate 32 (0 : UInt8)).length = 32 := List.length_replicate
  have hs := build_ofSecret "a" hlength { Defaults.none with encryptionMethod := some .a128gcm }
  have hkeeps := never_substitutes hs
  refine ⟨_, hs, ?_, ?_, hkeeps.signs_preferred rfl _ _ _ _ _⟩
  · have halg : KeyManagement.direct ∈ [KeyManagement.direct] := List.mem_singleton_self _
    have henc : ContentCipher.a128gcm ∉ [ContentCipher.a256gcm] := by decide
    exact ((hkeeps.encryptsBy .zeros [] none .none "a" _ rfl rfl).unsupported_enc_iff halg).2 henc
  · have halg : SignatureAlgorithm.rs256 ∉ [SignatureAlgorithm.hs256] := by decide
    exact (hkeeps.signsBy .zeros .null none (some .rs256) "a" _ rfl rfl).unsupported_iff.2 halg

end Service

end SignOn.Jose
