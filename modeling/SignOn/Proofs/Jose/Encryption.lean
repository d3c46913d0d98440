import SignOn.Proofs.Jose.Decryption
import SignOn.Proofs.Jose.PrivateKey

/-!
# Decrypting what was encrypted

An encrypter and a decrypter that were made from one key agree on the content key, on the methods
and on the form of a token. AES in Galois/counter mode opens what it sealed; that the private half
of an RSA key unwraps what its public half wrapped is assumed of the key.
-/

namespace SignOn.Jose

open Crypto Json Outcome Text

/-! ## The content key -/

/-- An encrypter and a decrypter that belong to one key. -/
inductive Matching : Encrypter → Decrypter → Prop where
  | rsa (kid : String) {key : Rsa.PrivateKey} (h : key.Unwraps) :
    Matching (.rsa kid key.toPublic) (.rsa kid key)
  | direct (kid : String) {secret : Bytes} {m : ContentCipher} (h : m.keyLength = secret.length) :
    Matching (.direct kid secret m) (.direct kid secret m)

namespace Matching

variable {x : Encrypter} {y : Decrypter}

theorem of_ofJwk {kid : String} {k : Jwk}
    (hrsa : ∀ key, k.rsaPrivateKey? = .ok (some key) → key.Unwraps)
    (hx : Encrypter.ofJwk kid k = .ok (some x)) (hy : Decrypter.ofJwk kid k = .ok (some y)) :
    Matching x y := by
  rcases Encrypter.ofJwk_eq_some_iff.1 hx with ⟨hkind, pub, hpub, rfl⟩ |
    ⟨hkind, secret, m, hsecret, hm, rfl⟩
  · rcases Decrypter.ofJwk_eq_some_iff.1 hy with ⟨-, key, hkey, rfl⟩ | ⟨hkind', -⟩
    · rw [← Jwk.toPublic_of_rsaPrivateKey? hkey hpub]
      exact .rsa kid (hrsa key hkey)
    · rw [hkind] at hkind'
      cases hkind'
  · rcases Decrypter.ofJwk_eq_some_iff.1 hy with ⟨hkind', -⟩ | ⟨-, secret', m', hsecret', hm', rfl⟩
    · rw [hkind] at hkind'
      cases hkind'
    · obtain rfl := Except.ok.inj (hsecret.symm.trans hsecret')
      obtain rfl : m = m' := by
        rw [← hm] at hm'
        cases m <;> cases m' <;> first | rfl | exact absurd hm' (by decide)
      exact .direct kid hm

theorem algorithms_eq (h : Matching x y) : y.algorithms = x.algorithms := by
  cases h <;> rfl

theorem methods_eq (h : Matching x y) : y.methods = x.methods := by
  cases h <;> rfl

/-- Both agree on the content key. -/
theorem contentKey (h : Matching x y) {r : Entropy} {m : ContentCipher}
    {content wrapped : Bytes} (hx : x.contentKey r m = .ok (content, wrapped)) :
    y.contentKey wrapped = .ok content := by
  cases h with
  | rsa kid hunwraps =>
    rw [Encrypter.contentKey] at hx
    split at hx
    · next w hw =>
      obtain ⟨rfl, rfl⟩ := Prod.mk.inj (Except.ok.inj hx)
      simp only [Decrypter.contentKey, hunwraps _ _ _ r.seed.length_toList hw]
    · cases hx
  | direct kid hlength =>
    obtain ⟨rfl, rfl⟩ := Prod.mk.inj (Except.ok.inj hx)
    simp only [Decrypter.contentKey, if_true]

end Matching

/-! ## Tokens -/

/-- What an encryption that succeeds consists of. -/
theorem Encrypter.encrypt_eq_ok {x : Encrypter} {r : Entropy} {plaintext : Bytes}
    {algorithm : KeyManagement} {method : ContentCipher} {contentType : Option String}
    {t : EncryptedToken} (h : x.encrypt r plaintext algorithm method contentType = .ok t) :
    algorithm ∈ x.algorithms ∧ method ∈ x.methods ∧ ∃ content wrapped s,
      x.contentKey r method = .ok (content, wrapped) ∧
      method.encrypt? content r.nonce.toList
        (utf8 (EncryptionHeader.segment ⟨algorithm, method, some x.kid, contentType⟩)) plaintext =
          some s ∧
      t = ⟨compact (EncryptionHeader.segment ⟨algorithm, method, some x.kid, contentType⟩) wrapped
        r.nonce.toList s, x.kid, algorithm, method⟩ := by
  simp only [encrypt, ite_error_eq_ok_iff, Decidable.not_not] at h
  obtain ⟨halgorithm, hmethod, h⟩ := h
  obtain ⟨⟨content, wrapped⟩, hkey, h⟩ := bind_eq_ok_iff.1 h
  refine ⟨halgorithm, hmethod, content, wrapped, ?_⟩
  split at h
  · next s hs =>
    obtain rfl := Except.ok.inj h
    exact ⟨s, hkey, hs, rfl⟩
  · cases h

/-- Encryption succeeds if there is a content key for the method and the text is not too long. -/
theorem Encrypter.exists_encrypt {x : Encrypter} {r : Entropy} {algorithm : KeyManagement}
    {method : ContentCipher} (halgorithm : algorithm ∈ x.algorithms) (hmethod : method ∈ x.methods)
    {content wrapped : Bytes} (hkey : x.contentKey r method = .ok (content, wrapped))
    (hcontent : content.length = method.keyLength) {plaintext : Bytes}
    (hlength : plaintext.length ≤ Gcm.lengthLimit) (contentType : Option String) :
    ∃ t, x.encrypt r plaintext algorithm method contentType = .ok t := by
  have hopen (nonce associated : Bytes) : method.encrypt? content nonce associated plaintext =
      some (Gcm.encrypt content nonce associated plaintext) := if_pos ⟨hcontent, hlength⟩
  rw [encrypt, if_neg (not_not_intro halgorithm), if_neg (not_not_intro hmethod), hkey, ok_bind]
  dsimp only
  rw [hopen]
  exact ⟨_, rfl⟩

/-- An RSA key whose modulus has room for the padding wraps every content key. -/
theorem Encrypter.exists_contentKey_rsa (kid : String) {key : Rsa.PublicKey} (r : Entropy)
    {method : ContentCipher} (hsize : method.keyLength + 2 * Rsa.Oaep.hash.length + 2 ≤ key.size) :
    ∃ wrapped, (Encrypter.rsa kid key).contentKey r method =
      .ok ((r.contentKey method.keyLength).toList, wrapped) := by
  have hlength : (r.contentKey method.keyLength).toList.length = method.keyLength :=
    Vector.length_toList
  rw [contentKey, Rsa.Oaep.wrap?, if_neg (by omega)]
  exact ⟨_, rfl⟩

theorem Encrypter.compact_segment (header : EncryptionHeader) (wrapped nonce : Bytes)
    (s : Gcm.Sealed) :
    compact header.segment wrapped nonce s = Dotted.join
      ((Decrypter.parts (utf8 header.toJson.text) wrapped nonce s).map Base64Url.encode) := rfl

/-- A decrypter opens a token that seals a plaintext under its content key. -/
theorem Decrypter.decrypt_compact {y : Decrypter} {header : EncryptionHeader}
    {content wrapped nonce plaintext : Bytes} {s : Gcm.Sealed} (halg : header.alg ∈ y.algorithms)
    (henc : header.enc ∈ y.methods) (hkey : y.contentKey wrapped = .ok content)
    (hnonce : nonce.length = nonceLength) (htag : s.tag.length = tagLength)
    (hseal : header.enc.encrypt? content nonce (utf8 header.segment) plaintext = some s) :
    y.decrypt (Encrypter.compact header.segment wrapped nonce s) = .ok plaintext := by
  rw [Encrypter.compact_segment]
  exact decrypt_eq_ok_iff.2 ⟨_, wrapped, nonce, s, rfl, header, content,
    EncryptionHeader.decode_toJson header, halg, henc, hkey, hnonce, htag, hseal⟩

/-- A token consists of five segments: the header, the wrapped key, the nonce, a ciphertext as long
as the plaintext, and the tag. -/
def HasForm (token : String) (header : EncryptionHeader) (plaintext : Bytes) : Prop :=
  ∃ wrapped nonce ciphertext tag : Bytes,
    Dotted.split token =
      [utf8 header.toJson.text, wrapped, nonce, ciphertext, tag].map Base64Url.encode ∧
    nonce.length = 12 ∧ tag.length = 16 ∧ ciphertext.length = plaintext.length ∧
    (header.alg = .direct → wrapped = [])

theorem Encrypter.hasForm_of_encrypt {x : Encrypter} {r : Entropy} {plaintext : Bytes}
    {algorithm : KeyManagement} {method : ContentCipher} {contentType : Option String}
    {t : EncryptedToken} (h : x.encrypt r plaintext algorithm method contentType = .ok t) :
    HasForm t.compact ⟨algorithm, method, some x.kid, contentType⟩ plaintext := by
  obtain ⟨halgorithm, -, content, wrapped, s, hkey, hs, rfl⟩ := encrypt_eq_ok h
  obtain ⟨-, hciphertext, htag⟩ := ContentCipher.length_of_encrypt? r.nonce.length_toList hs
  refine ⟨wrapped, r.nonce.toList, s.ciphertext, s.tag, ?_, Vector.length_toList, htag,
    hciphertext, ?_⟩
  · rw [compact_segment]
    exact Decrypter.split_parts _ wrapped _ s
  rintro rfl
  cases x with
  | rsa kid key => exact absurd (List.mem_singleton.1 halgorithm) (by decide)
  | direct kid secret m => exact (Prod.mk.inj (Except.ok.inj hkey)).2.symm

theorem Matching.decrypt_of_encrypt {x : Encrypter} {y : Decrypter} (hxy : Matching x y)
    {r : Entropy} {plaintext : Bytes} {algorithm : KeyManagement} {method : ContentCipher}
    {contentType : Option String} {t : EncryptedToken}
    (h : x.encrypt r plaintext algorithm method contentType = .ok t) :
    y.decrypt t.compact = .ok plaintext := by
  obtain ⟨halgorithm, hmethod, content, wrapped, s, hkey, hs, rfl⟩ := Encrypter.encrypt_eq_ok h
  obtain ⟨-, -, htag⟩ := ContentCipher.length_of_encrypt? r.nonce.length_toList hs
  have hkey' := hxy.contentKey hkey
  rw [← hxy.algorithms_eq] at halgorithm
  rw [← hxy.methods_eq] at hmethod
  exact Decrypter.decrypt_compact halgorithm hmethod hkey' Vector.length_toList htag hs

/-! ## Services -/

namespace Service

variable {ring : KeyRing} {defaults : Defaults} {s : Service} {r : Entropy} {plaintext : Bytes}
  {kid : Option String} {options : EncryptOptions} {t : EncryptedToken}

theorem encryptWith_eq_ok (h : s.encryptWith r plaintext kid options = .ok t) :
    ∃ id x, kid.or s.defaultEncryptionKeyId = some id ∧ s.encrypters.lookup id = some x ∧
      x.encrypt r plaintext
        (choose options.algorithm s.defaults.encryptionAlgorithm x.preferred.1)
        (choose options.method s.defaults.encryptionMethod x.preferred.2) options.contentType =
          .ok t := by
  obtain ⟨x, hx, h⟩ := bind_eq_ok_iff.1 h
  obtain ⟨id, hid, hx⟩ := resolve_eq_ok_iff.1 hx
  exact ⟨id, x, hid, hx, h⟩

/-- The token of an encryption carries the id of its key and the algorithm and the method that were
chosen, in its header too. -/
theorem token_of_encryptWith (hbuilt : s.Built)
    (h : s.encryptWith r plaintext kid options = .ok t) :
    kid.or s.defaultEncryptionKeyId = some t.keyId ∧
      (∃ x, s.encrypters.lookup t.keyId = some x ∧
        t.algorithm = choose options.algorithm s.defaults.encryptionAlgorithm x.preferred.1 ∧
        t.method = choose options.method s.defaults.encryptionMethod x.preferred.2) ∧
      HasForm t.compact ⟨t.algorithm, t.method, some t.keyId, options.contentType⟩ plaintext := by
  obtain ⟨id, x, hid, hx, h⟩ := encryptWith_eq_ok h
  have hform := Encrypter.hasForm_of_encrypt h
  obtain ⟨-, -, content, wrapped, sealed, -, -, rfl⟩ := Encrypter.encrypt_eq_ok h
  have hkid : x.kid = id := kid_of_lookup_encrypters hbuilt hx
  refine ⟨by rw [hid, hkid], ⟨x, ?_, rfl, rfl⟩, hform⟩
  rw [hkid]
  exact hx

/-- What a key encrypted it decrypts, if it can decrypt at all. -/
theorem decrypt_of_encryptWith (hbuilt : s.Built)
    (hdecrypter : (s.decrypters.lookup t.keyId).isSome)
    (hrsa : ∀ k key, s.ring.get? t.keyId = some k → k.rsaPrivateKey? = .ok (some key) →
      key.Unwraps)
    (h : s.encryptWith r plaintext kid options = .ok t) :
    s.decrypt t.compact (some t.keyId) = .ok plaintext := by
  obtain ⟨id, x, -, hx, h⟩ := encryptWith_eq_ok h
  have hkid : t.keyId = id := by
    obtain ⟨-, -, content, wrapped, sealed, -, -, rfl⟩ := Encrypter.encrypt_eq_ok h
    exact kid_of_lookup_encrypters hbuilt hx
  rw [hkid] at hdecrypter hrsa ⊢
  obtain ⟨y, hy⟩ := Option.isSome_iff_exists.1 hdecrypter
  -- both capabilities were made from the one key under this id
  obtain ⟨k, hk, hxk⟩ := (lookup_encrypters_eq_some_iff hbuilt).1 hx
  obtain ⟨k', hk', hyk⟩ := (lookup_decrypters_eq_some_iff hbuilt).1 hy
  obtain rfl : k = k' := Option.some.inj (hk.symm.trans hk')
  have hmatching : Matching x y := .of_ofJwk (fun key ↦ hrsa k key hk) hxk hyk
  have hresolve : resolve s.decrypters .decrypt (some id) s.defaultDecryptionKeyId = .ok y :=
    resolve_eq_ok_iff.2 ⟨id, Option.some_or, hy⟩
  rw [decrypt, hresolve, ok_bind]
  exact hmatching.decrypt_of_encrypt h

/-- The service of an RSA key encrypts every text that is not too long. -/
theorem exists_encryptWith {key : Rsa.PrivateKey} (hkey : key.Strong) (id : String) (r : Entropy)
    (hlength : plaintext.length ≤ Gcm.lengthLimit) (contentType : Option String) :
    ∃ t, (ofPrivateKey id key .none).encryptWith r plaintext none ⟨none, none, contentType⟩ =
      .ok t := by
  have hresolve : resolve (ofPrivateKey id key .none).encrypters .encrypt none
      (ofPrivateKey id key .none).defaultEncryptionKeyId = .ok (.rsa id key.toPublic) :=
    resolve_eq_ok_iff.2 ⟨id, rfl, lookup_encrypters_ofPrivateKey id key .none⟩
  obtain ⟨hlarge, -, -⟩ := Rsa.PrivateKey.checkSigning_eq_ok hkey.signs
  have hsize : ContentCipher.keyLength .a256gcm + 2 * Rsa.Oaep.hash.length + 2 ≤
      key.toPublic.size := by
    have hbytes : key.toPublic.size = byteLength key.modulus := rfl
    have hneeded : ContentCipher.keyLength .a256gcm + 2 * Rsa.Oaep.hash.length + 2 = 98 := rfl
    omega
  obtain ⟨wrapped, hwrapped⟩ := Encrypter.exists_contentKey_rsa id r hsize
  rw [encryptWith, hresolve, ok_bind]
  exact Encrypter.exists_encrypt (List.mem_singleton.2 rfl) (ContentCipher.mem_all _) hwrapped
    Vector.length_toList hlength contentType

/-- Decrypting under the key id of a token gives the plaintext back, whatever the options and the
random choices were, and the token has the form of one. Of an RSA key it is assumed that its private
half unwraps what its public half wrapped. -/
theorem decrypt_encryptWith (hs : build ring defaults = .ok s) {id : String}
    (hid : kid.or s.defaultEncryptionKeyId = some id)
    (hdecrypter : (s.decrypters.lookup id).isSome)
    (hrsa : ∀ k key, ring.get? id = some k → k.rsaPrivateKey? = .ok (some key) → key.Unwraps)
    (ht : s.encryptWith r plaintext kid options = .ok t) :
    t.keyId = id ∧ s.decrypt t.compact (some t.keyId) = .ok plaintext ∧
      HasForm t.compact ⟨t.algorithm, t.method, some t.keyId, options.contentType⟩ plaintext := by
  obtain ⟨rfl, -, hbuilt⟩ := of_build hs
  obtain ⟨hkeyId, -, hform⟩ := token_of_encryptWith hbuilt ht
  obtain rfl : id = t.keyId := Option.some.inj (hid.symm.trans hkeyId)
  exact ⟨rfl, decrypt_of_encryptWith hbuilt hdecrypter hrsa ht, hform⟩

/-- It is so of a key of 2048 bits. -/
theorem decrypt_encryptWith_sample :
    ∃ s t, build (.single "a" (Jwk.ofPrivateKey "a" .sample)) .none = .ok s ∧
      s.encryptWith .zeros [104, 105] none .none = .ok t ∧
      t.keyId = "a" ∧ s.decrypt t.compact (some t.keyId) = .ok [104, 105] ∧
      HasForm t.compact ⟨t.algorithm, t.method, some t.keyId, none⟩ [104, 105] := by
  have hkey := Rsa.PrivateKey.strong_sample
  generalize Rsa.PrivateKey.sample = key at hkey ⊢
  have hs := build_ofPrivateKey "a" .none hkey
  have hlength : [(104 : UInt8), 105].length ≤ Gcm.lengthLimit := by decide
  obtain ⟨t, ht⟩ := exists_encryptWith hkey "a" .zeros hlength none
  have hdecrypter := lookup_decrypters_ofPrivateKey "a" key .none
  have hdecrypt := decrypt_encryptWith hs rfl (Option.isSome_of_eq_some hdecrypter)
    (fun _ _ hk hprivate ↦ KeyRing.unwraps_of_get?_single hkey hk hprivate) ht
  exact ⟨_, t, hs, ht, hdecrypt⟩

end Service

end SignOn.Jose
