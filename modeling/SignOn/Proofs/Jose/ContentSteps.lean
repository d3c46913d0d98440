import SignOn.Proofs.Jose.Encryption
import SignOn.Proofs.Jose.SharedSecret

/-!
# Encrypting and decrypting, one step of the cipher at a time

Here the cipher takes its key in a step of its own, which fails for a key of the wrong length, and
hands out the ciphertext and the tag in one run of bytes, off which the tag is cut in another step.
The steps yield what encrypting and decrypting yield. With a shared secret none of them fails, apart
from a text that is too long and a tag that is wrong, since such a secret becomes a content key only
for the one method whose keys are as long as it is.
-/

namespace SignOn.Jose

open Crypto Outcome Text

/-- How a run ends without a result: it is refused by a check, or a step of the cipher fails. -/
inductive Halt (ε : Type) where
  | refused (e : ε)
  /-- The cipher takes no key of this length. -/
  | keyRejected
  /-- The text is longer than one nonce is good for. -/
  | textTooLong
  /-- There are fewer bytes than a tag has. -/
  | underflow
  /-- The tag does not vouch for the ciphertext. -/
  | forged
deriving DecidableEq

/-- The error of a run, if it is `other` for all steps of the cipher. -/
def Halt.toError {ε : Type} (other : ε) : Halt ε → ε
  | .refused e => e
  | _ => other

namespace Stepwise

variable {ε : Type}

/-- A check in front of the cipher. -/
def checked {α : Type} (x : Except ε α) : Except (Halt ε) α := x.mapError .refused

/-- The key as the cipher takes it. -/
def cipherKey (m : ContentCipher) (key : Bytes) : Except (Halt ε) Bytes :=
  if key.length = m.keyLength then .ok key else .error .keyRejected

/-- Cuts the tag off. -/
def cutTag (bs : Bytes) : Except (Halt ε) Gcm.Sealed :=
  if tagLength ≤ bs.length then
    .ok ⟨bs.take (bs.length - tagLength), bs.drop (bs.length - tagLength)⟩
  else .error .underflow

/-- The ciphertext with the tag behind it. -/
def sealText (m : ContentCipher) (key nonce associated text : Bytes) :
    Except (Halt ε) Bytes := do
  let key ← cipherKey m key
  if Gcm.lengthLimit < text.length then .error .textTooLong
  else
    let s := Gcm.encrypt key nonce associated text
    return s.ciphertext ++ s.tag

/-- The text of a ciphertext with the tag behind it. -/
def openText (m : ContentCipher) (key nonce associated bs : Bytes) :
    Except (Halt ε) Bytes := do
  let key ← cipherKey m key
  let s ← cutTag bs
  if Gcm.lengthLimit < s.ciphertext.length then .error .textTooLong
  else
    match Gcm.decrypt? key nonce associated s with
    | some text => return text
    | none => .error .forged

def encrypt (x : Encrypter) (r : Entropy) (plaintext : Bytes) (algorithm : KeyManagement)
    (method : ContentCipher) (contentType : Option String) :
    Except (Halt Error) EncryptedToken :=
  if algorithm ∉ x.algorithms then
    .error (.refused (.unsupportedAlgorithm algorithm.name (some x.kid)))
  else if method ∉ x.methods then
    .error (.refused (.unsupportedAlgorithm method.name (some x.kid)))
  else do
    let (key, wrapped) ← checked (x.contentKey r method)
    let header : EncryptionHeader := ⟨algorithm, method, some x.kid, contentType⟩
    let bs ← sealText method key r.nonce.toList (utf8 header.segment) plaintext
    let s ← cutTag bs
    return ⟨Encrypter.compact header.segment wrapped r.nonce.toList s, x.kid, algorithm, method⟩

def decryptSegments (x : Decrypter) (header wrapped nonce ciphertext tag : String) :
    Except (Halt DecryptionFault) Bytes := do
  let headerBytes ← checked (Decrypter.bytesOf "header" header)
  let h ←
    match EncryptionHeader.decode.runBytes headerBytes with
    | .ok h => pure h
    | .error _ => .error (.refused .header)
  if h.alg ∉ x.algorithms then .error (.refused (.cannotUnwrap h.alg))
  if h.enc ∉ x.methods then .error (.refused (.cannotDecrypt h.enc))
  let wrappedBytes ← checked (Decrypter.bytesOf "encrypted key" wrapped)
  let key ← checked (x.contentKey wrappedBytes)
  if key.length ≠ h.enc.keyLength then .error (.refused .keyLength)
  let nonceBytes ← checked (Decrypter.bytesOf "iv" nonce)
  if nonceBytes.length ≠ Jose.nonceLength then .error (.refused .nonceLength)
  let tagBytes ← checked (Decrypter.bytesOf "tag" tag)
  if tagBytes.length ≠ Jose.tagLength then .error (.refused .tagLength)
  let ciphertextBytes ← checked (Decrypter.bytesOf "ciphertext" ciphertext)
  openText h.enc key nonceBytes (utf8 header) (ciphertextBytes ++ tagBytes)

def decrypt (x : Decrypter) (token : String) : Except (Halt DecryptionFault) Bytes :=
  match Dotted.split token with
  | [header, wrapped, nonce, ciphertext, tag] =>
    decryptSegments x header wrapped nonce ciphertext tag
  | _ => .error (.refused .segments)

/-! ## The steps of the cipher -/

theorem cutTag_append {ciphertext tag : Bytes} (h : tag.length = tagLength) :
    cutTag (ciphertext ++ tag) = (.ok ⟨ciphertext, tag⟩ : Except (Halt ε) Gcm.Sealed) := by
  have hlength : (ciphertext ++ tag).length - tagLength = ciphertext.length := by
    rw [List.length_append, h, Nat.add_sub_cancel]
  rw [cutTag, hlength, if_pos (by rw [List.length_append]; omega), List.take_left,
    List.drop_left]

variable {m : ContentCipher} {key nonce associated text : Bytes}

section

variable (hnonce : nonce.length = nonceLength)

include hnonce

/-- What is sealed is one tag longer than the text, and falls apart into its ciphertext and tag. -/
theorem sealText_eq (ε : Type) (associated : Bytes) (hkey : key.length = m.keyLength)
    (htext : text.length ≤ Gcm.lengthLimit) :
    ∃ bs s, sealText m key nonce associated text = (.ok bs : Except (Halt ε) Bytes) ∧
      bs.length = text.length + tagLength ∧
      cutTag bs = (.ok s : Except (Halt ε) Gcm.Sealed) ∧
      m.encrypt? key nonce associated text = some s := by
  have hseal : m.encrypt? key nonce associated text =
      some (Gcm.encrypt key nonce associated text) := if_pos ⟨hkey, htext⟩
  obtain ⟨-, hciphertext, htag⟩ := ContentCipher.length_of_encrypt? hnonce hseal
  have hrun : sealText m key nonce associated text =
      (.ok ((Gcm.encrypt key nonce associated text).ciphertext ++
        (Gcm.encrypt key nonce associated text).tag) : Except (Halt ε) Bytes) := by
    rw [sealText, cipherKey, if_pos hkey, ok_bind, if_neg (Nat.not_lt.2 htext)]
    rfl
  -- What is sealed is made opaque, lest the pair of its parts be compared with its computation.
  generalize Gcm.encrypt key nonce associated text = s at hseal hciphertext htag hrun
  have hlength : (s.ciphertext ++ s.tag).length = text.length + tagLength := by
    rw [List.length_append, hciphertext, htag]
  exact ⟨s.ciphertext ++ s.tag, s, hrun, hlength, cutTag_append htag, hseal⟩

/-- Sealing and cutting the tag off again is encrypting. -/
theorem toError_sealText (other : ε) :
    (sealText m key nonce associated text >>= cutTag).mapError (Halt.toError other) =
      match m.encrypt? key nonce associated text with
      | some s => .ok s
      | none => .error other := by
  by_cases hkey : key.length = m.keyLength
  · by_cases htext : text.length ≤ Gcm.lengthLimit
    · obtain ⟨bs, s, hbs, -, hcut, hseal⟩ := sealText_eq hnonce ε associated hkey htext
      rw [hbs, ok_bind, hcut, hseal]
      rfl
    · rw [sealText, cipherKey, if_pos hkey, ok_bind, if_pos (Nat.not_le.1 htext),
        ContentCipher.encrypt?, if_neg fun h ↦ htext h.2]
      rfl
  · rw [sealText, cipherKey, if_neg hkey, ContentCipher.encrypt?, if_neg fun h ↦ hkey h.1]
    rfl

end

theorem toError_openText {ciphertext tag : Bytes} (htag : tag.length = tagLength) (other : ε) :
    (openText m key nonce associated (ciphertext ++ tag)).mapError (Halt.toError other) =
      match m.decrypt? key nonce associated ⟨ciphertext, tag⟩ with
      | some text => .ok text
      | none => .error other := by
  by_cases hkey : key.length = m.keyLength
  · rw [openText, cipherKey, if_pos hkey, ok_bind, cutTag_append htag, ok_bind]
    by_cases htext : ciphertext.length ≤ Gcm.lengthLimit
    · rw [if_neg (Nat.not_lt.2 htext), ContentCipher.decrypt?, if_pos ⟨hkey, htext⟩]
      cases Gcm.decrypt? key nonce associated ⟨ciphertext, tag⟩ <;> rfl
    · rw [if_pos (Nat.not_le.1 htext), ContentCipher.decrypt?, if_neg fun h ↦ htext h.2]
      rfl
  · rw [openText, cipherKey, if_neg hkey, ContentCipher.decrypt?, if_neg fun h ↦ hkey h.1]
    rfl

/-! ## Whole runs -/

theorem checked_eq_ok_iff {α : Type} {x : Except ε α} {a : α} :
    checked x = .ok a ↔ x = .ok a := by
  cases x <;> simp [checked]

theorem toError_checked {α : Type} (x : Except ε α) (other : ε) :
    (checked x).mapError (Halt.toError other) = x := by
  cases x <;> rfl

theorem toError_check {α : Type} {c : Prop} [Decidable c] {e other : ε}
    {f : PUnit → Except (Halt ε) α} {g : PUnit → Except ε α} {x : Except (Halt ε) α}
    {y : Except ε α} (h : ¬c → x.mapError (Halt.toError other) = y) :
    (if c then .error (.refused e) >>= f else x).mapError (Halt.toError other) =
      if c then .error e >>= g else y := by
  split
  · rfl
  · next hc => exact h hc

/-- The steps yield what encrypting yields. -/
theorem toError_encrypt (x : Encrypter) (r : Entropy) (plaintext : Bytes)
    (algorithm : KeyManagement) (method : ContentCipher) (contentType : Option String) :
    (encrypt x r plaintext algorithm method contentType).mapError
        (Halt.toError (.encryptionFailed x.kid "content encryption failed")) =
      x.encrypt r plaintext algorithm method contentType := by
  rw [encrypt, Encrypter.encrypt]
  split
  · rfl
  split
  · rfl
  rw [mapError_bind, toError_checked]
  refine bind_congr ?_
  rintro ⟨key, wrapped⟩
  dsimp only
  rw [← bind_assoc, mapError_bind, toError_sealText r.nonce.length_toList]
  cases method.encrypt? key r.nonce.toList _ plaintext <;> rfl

theorem toError_decryptSegments (x : Decrypter) (header wrapped nonce ciphertext tag : String) :
    (decryptSegments x header wrapped nonce ciphertext tag).mapError
        (Halt.toError .authentication) =
      x.decryptSegments header wrapped nonce ciphertext tag := by
  rw [decryptSegments, Decrypter.decryptSegments, mapError_bind, toError_checked]
  refine bind_congr fun headerBytes ↦ ?_
  cases EncryptionHeader.decode.runBytes headerBytes with
  | error e => rfl
  | ok h =>
    refine toError_check fun _ ↦ toError_check fun _ ↦ ?_
    rw [mapError_bind, toError_checked]
    refine bind_congr fun wrappedBytes ↦ ?_
    rw [mapError_bind, toError_checked]
    refine bind_congr fun key ↦ toError_check fun _ ↦ ?_
    rw [mapError_bind, toError_checked]
    refine bind_congr fun nonceBytes ↦ toError_check fun _ ↦ ?_
    rw [mapError_bind, toError_checked]
    refine bind_congr fun tagBytes ↦ toError_check fun htag ↦ ?_
    rw [mapError_bind, toError_checked]
    refine bind_congr fun ciphertextBytes ↦ ?_
    rw [toError_openText (Decidable.not_not.1 htag)]
    cases h.enc.decrypt? key nonceBytes (utf8 header) ⟨ciphertextBytes, tagBytes⟩ <;> rfl

/-- The steps yield what decrypting yields. -/
theorem toError_decrypt (x : Decrypter) (token : String) :
    (decrypt x token).mapError
        (fun h ↦ .decryptionFailed x.kid (h.toError .authentication).message) =
      x.decrypt token := by
  rw [decrypt, Decrypter.decrypt]
  generalize Dotted.split token = parts
  split
  · next header wrapped nonce ciphertext tag =>
    simp only [← toError_decryptSegments]
    cases decryptSegments x header wrapped nonce ciphertext tag <;> rfl
  · next hparts =>
    simp only [Halt.toError, mapError_error]

/-! ## Keys of the right length -/

/-- The run does not end because of the length of its key, neither in front of the cipher nor
within. -/
def Fits {α : Type} (x : Except (Halt DecryptionFault) α) : Prop :=
  x ≠ .error (.refused .keyLength) ∧ x ≠ .error .keyRejected

namespace Fits

variable {α β : Type}

theorem bind {x : Except (Halt DecryptionFault) α} {f : α → Except (Halt DecryptionFault) β}
    (hx : Fits x) (hf : ∀ a, x = .ok a → Fits (f a)) : Fits (x >>= f) := by
  cases x with
  | ok a => exact hf a rfl
  | error h => simpa [Fits] using hx

theorem check {c : Prop} [Decidable c] {e : DecryptionFault} (he : e ≠ .keyLength)
    {f : PUnit → Except (Halt DecryptionFault) α} {x : Except (Halt DecryptionFault) α}
    (hx : ¬c → Fits x) : Fits (if c then .error (.refused e) >>= f else x) := by
  split
  · simpa [Fits] using he
  · next hc => exact hx hc

theorem bytesOf (part segment : String) : Fits (checked (Decrypter.bytesOf part segment)) := by
  rw [Decrypter.bytesOf]
  cases Base64Url.decode? segment <;> simp [Fits, checked]

end Fits

section

variable {kid : String} {secret : Bytes} (hsecret : secret.length = m.keyLength)

include hsecret

/-- A key of the right length opens what its tag vouches for. -/
theorem fits_openText (nonce associated bs : Bytes) :
    Fits (openText m secret nonce associated bs) := by
  rw [openText, cipherKey, if_pos hsecret, ok_bind]
  refine Fits.bind ?_ fun s _ ↦ ?_
  · rw [cutTag]
    split <;> simp [Fits]
  · split
    · simp [Fits]
    · cases Gcm.decrypt? secret nonce associated s <;> simp [Fits]

/-- The check of the header leaves the one method that the secret is long enough for. -/
theorem fits_decryptSegments (header wrapped nonce ciphertext tag : String) :
    Fits (decryptSegments (.direct kid secret m) header wrapped nonce ciphertext tag) := by
  rw [decryptSegments]
  refine Fits.bind (.bytesOf _ _) fun headerBytes _ ↦ ?_
  cases EncryptionHeader.decode.runBytes headerBytes with
  | error e => simp [Fits]
  | ok h =>
    refine Fits.check (by simp) fun _ ↦ Fits.check (by simp) fun henc ↦ ?_
    have hmethod : h.enc = m := List.mem_singleton.1 (Decidable.not_not.1 henc)
    refine Fits.bind (.bytesOf _ _) fun wrappedBytes _ ↦ Fits.bind ?_ fun key hkey ↦ ?_
    · rw [Decrypter.contentKey]
      split <;> simp [Fits, checked]
    · obtain rfl : key = secret :=
        (Decrypter.contentKey_direct_eq_ok_iff.1 (checked_eq_ok_iff.1 hkey)).2
      rw [if_neg (not_not_intro (by rw [hsecret, hmethod]))]
      refine Fits.bind (.bytesOf _ _) fun nonceBytes _ ↦ Fits.check (by simp) fun _ ↦ ?_
      refine Fits.bind (.bytesOf _ _) fun tagBytes _ ↦ Fits.check (by simp) fun _ ↦ ?_
      refine Fits.bind (.bytesOf _ _) fun ciphertextBytes _ ↦ ?_
      rw [hmethod]
      exact fits_openText hsecret _ _ _

/-- A listed algorithm and method take every text that is not too long to its token. -/
theorem exists_encrypt_direct (r : Entropy) {plaintext : Bytes}
    (hlength : plaintext.length ≤ Gcm.lengthLimit) {algorithm : KeyManagement}
    {method : ContentCipher} (halgorithm : algorithm ∈ (Encrypter.direct kid secret m).algorithms)
    (hmethod : method ∈ (Encrypter.direct kid secret m).methods) (contentType : Option String) :
    ∃ t, encrypt (.direct kid secret m) r plaintext algorithm method contentType = .ok t := by
  obtain rfl : method = m := List.mem_singleton.1 hmethod
  let header : EncryptionHeader := ⟨algorithm, method, some kid, contentType⟩
  obtain ⟨bs, s, hbs, -, hcut, -⟩ :=
    sealText_eq r.nonce.length_toList Error (utf8 header.segment) hsecret hlength
  refine ⟨⟨Encrypter.compact header.segment [] r.nonce.toList s, kid, algorithm, method⟩, ?_⟩
  rw [encrypt, if_neg (not_not_intro halgorithm), if_neg (not_not_intro hmethod),
    Encrypter.contentKey, checked, mapError_ok, ok_bind]
  dsimp only
  rw [Encrypter.kid, hbs, ok_bind, hcut, ok_bind]
  rfl

/-- No token is refused for the length of the key, wherever that length is looked at. -/
theorem fits_decrypt (token : String) : Fits (decrypt (.direct kid secret m) token) := by
  rw [decrypt]
  split
  · exact fits_decryptSegments hsecret _ _ _ _ _
  · simp [Fits]

end

end Stepwise

/-- The text of an error tells the length of the key from everything else. -/
theorem DecryptionFault.eq_keyLength_of_message {f : DecryptionFault}
    (h : f.message = keyLength.message) : f = keyLength := by
  cases f with
  | keyLength => rfl
  | encoding part =>
    have hlast : (part ++ " is not base64url").toList.getLast? =
        "content key length does not match method".toList.getLast? :=
      congrArg (fun s : String ↦ s.toList.getLast?) h
    have hpart : " is not base64url".toList.getLast? = some 'l' := by decide
    rw [String.toList_append, List.getLast?_append, hpart, Option.some_or] at hlast
    exact absurd hlast (by decide)
  | cannotUnwrap algorithm => cases algorithm <;> exact absurd h (by decide)
  | cannotDecrypt method => cases method <;> exact absurd h (by decide)
  | segments | header | unwrap | surplusKey | nonceLength | tagLength | authentication =>
    exact absurd h (by decide)

/-- Whatever a key says, a secret that it gives as a content key is as long as the keys of its
method. So with a listed algorithm and method every text that is not too long is encrypted, in steps
of which none fails, and no token is refused because of the length of the key. -/
theorem Jwk.direct_key_fits (kid : String) (k : Jwk) :
    (∀ name secret m, Encrypter.ofJwk kid k = .ok (some (.direct name secret m)) →
      secret.length = m.keyLength ∧
      ∀ r plaintext algorithm method contentType, plaintext.length ≤ Gcm.lengthLimit →
        algorithm ∈ (Encrypter.direct name secret m).algorithms →
        method ∈ (Encrypter.direct name secret m).methods →
        ∃ t, Stepwise.encrypt (.direct name secret m) r plaintext algorithm method contentType =
            .ok t ∧
          (Encrypter.direct name secret m).encrypt r plaintext algorithm method contentType =
            .ok t) ∧
    (∀ name secret m, Decrypter.ofJwk kid k = .ok (some (.direct name secret m)) →
      secret.length = m.keyLength ∧
      ∀ token, Stepwise.Fits (Stepwise.decrypt (.direct name secret m) token) ∧
        (Decrypter.direct name secret m).decrypt token ≠
          .error (.decryptionFailed name DecryptionFault.keyLength.message)) := by
  constructor
  · intro name secret m hx
    obtain ⟨-, _, -, h⟩ | ⟨-, _, _, -, hm, h⟩ := Encrypter.ofJwk_eq_some_iff.1 hx
    · cases h
    cases h
    refine ⟨hm.symm, fun r plaintext algorithm method contentType hlength halgorithm hmethod ↦ ?_⟩
    obtain ⟨t, ht⟩ := Stepwise.exists_encrypt_direct hm.symm r hlength halgorithm hmethod
      contentType
    refine ⟨t, ht, ?_⟩
    rw [← Stepwise.toError_encrypt, ht]
    rfl
  · intro name secret m hx
    obtain ⟨-, _, -, h⟩ | ⟨-, _, _, -, hm, h⟩ := Decrypter.ofJwk_eq_some_iff.1 hx
    · cases h
    cases h
    refine ⟨hm.symm, fun token ↦ ?_⟩
    have hfits : Stepwise.Fits (Stepwise.decrypt (.direct kid secret m) token) :=
      Stepwise.fits_decrypt hm.symm token
    refine ⟨hfits, fun h ↦ ?_⟩
    rw [← Stepwise.toError_decrypt] at h
    obtain ⟨halt, hhalt, h⟩ := mapError_eq_error_iff.1 h
    obtain ⟨-, h⟩ := Error.decryptionFailed.inj h
    have hfault := DecryptionFault.eq_keyLength_of_message h
    cases halt with
    | refused f =>
      obtain rfl : f = .keyLength := hfault
      exact hfits.1 hhalt
    | keyRejected | textTooLong | underflow | forged => cases hfault

/-- It is so of the secret that consists of zeros, which encrypts a short text and decrypts the
token. -/
theorem Jwk.direct_key_fits_sample :
    let secret : Bytes := List.replicate 32 0
    Encrypter.ofJwk "a" (.ofSecret "a" secret) = .ok (some (.direct "a" secret .a256gcm)) ∧
    Decrypter.ofJwk "a" (.ofSecret "a" secret) = .ok (some (.direct "a" secret .a256gcm)) ∧
    secret.length = ContentCipher.keyLength .a256gcm ∧
    ∃ t, Stepwise.encrypt (.direct "a" secret .a256gcm) .zeros [104, 105] .direct .a256gcm none =
        .ok t ∧
      (Encrypter.direct "a" secret .a256gcm).encrypt .zeros [104, 105] .direct .a256gcm none =
        .ok t ∧
      Stepwise.Fits (Stepwise.decrypt (.direct "a" secret .a256gcm) t.compact) ∧
      (Decrypter.direct "a" secret .a256gcm).decrypt t.compact ≠
        .error (.decryptionFailed "a" DecryptionFault.keyLength.message) := by
  intro secret
  have hsecret : secret.length = 32 := List.length_replicate
  obtain ⟨hx, hy, -, -⟩ := Capabilities.ofJwk_eq_ok_iff.1 (Capabilities.ofJwk_ofSecret "a" hsecret)
  obtain ⟨hencrypter, hdecrypter⟩ := Jwk.direct_key_fits "a" (.ofSecret "a" secret)
  obtain ⟨hlength, hencrypt⟩ := hencrypter _ _ _ hx
  obtain ⟨t, hstepwise, ht⟩ :=
    hencrypt .zeros [104, 105] .direct .a256gcm none (by decide) (by decide) (by decide)
  exact ⟨hx, hy, hlength, t, hstepwise, ht, (hdecrypter _ _ _ hy).2 t.compact⟩

end SignOn.Jose
