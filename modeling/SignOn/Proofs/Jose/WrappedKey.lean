import SignOn.Proofs.Jose.KeySize

/-!
# Wrapped keys that are written anew

The wrapped key is the only segment of a token that neither the tag nor the associated data cover.
It cannot be written in another way either: a segment has one encoding, and an RSA key unwraps
exactly as many bytes as its modulus has, so that zeros are neither put before the wrapped key nor
left out.
-/

namespace SignOn.Jose

open Crypto Outcome Text

namespace Decrypter

section

variable {x : Decrypter} {kid : String} {key : Rsa.PrivateKey} {wrapped : Bytes}

theorem contentKey_rsa_of_length (h : wrapped.length ≠ byteLength key.modulus) :
    (Decrypter.rsa kid key).contentKey wrapped = .error .unwrap := by
  have hunwrap : Rsa.Oaep.unwrap? key wrapped = none := if_pos h
  rw [contentKey]
  simp only [hunwrap]

theorem length_of_contentKey_rsa {content : Bytes}
    (h : (Decrypter.rsa kid key).contentKey wrapped = .ok content) :
    wrapped.length = byteLength key.modulus := by
  by_contra hlength
  rw [contentKey_rsa_of_length hlength] at h
  cases h

/-- Behind a header that the key can work with, the wrapped key is looked at next. -/
theorem decryptSegments_of_contentKey_error {header : Bytes} {h : EncryptionHeader}
    (hheader : EncryptionHeader.decode.runBytes header = .ok h) (halg : h.alg ∈ x.algorithms)
    (henc : h.enc ∈ x.methods) {segment : String} {fault : DecryptionFault}
    (hkey : bytesOf "encrypted key" segment >>= x.contentKey = .error fault)
    (nonce ciphertext tag : String) :
    x.decryptSegments (Base64Url.encode header) segment nonce ciphertext tag = .error fault := by
  rw [decryptSegments, bytesOf_encode, ok_bind, hheader]
  simp only [pure_eq, ok_bind, if_neg (not_not_intro halg), if_neg (not_not_intro henc)]
  rcases bind_eq_error_iff.1 hkey with hbytes | ⟨bs, hbytes, hcontent⟩
  · rw [hbytes, error_bind]
  · rw [hbytes, ok_bind, hcontent, error_bind]

end

/-- What is wrong with a wrapped key that has the wrong number of bytes, or is not encoded as it
should be. -/
def rewrappingFault (segment : String) : DecryptionFault :=
  if (Base64Url.decode? segment).isSome then .unwrap else .encoding "encrypted key"

theorem contentKey_of_rewrapped (kid : String) {key : Rsa.PrivateKey} {segment : String}
    (h : ∀ bs, Base64Url.decode? segment = some bs → bs.length ≠ byteLength key.modulus) :
    bytesOf "encrypted key" segment >>= (Decrypter.rsa kid key).contentKey =
      .error (rewrappingFault segment) := by
  rw [bytesOf, rewrappingFault]
  cases hbytes : Base64Url.decode? segment with
  | none => rfl
  | some bs =>
    simp only [ok_bind, Option.isSome_some, if_true]
    exact contentKey_rsa_of_length (h bs hbytes)

/-- The wrapped key of a token that decrypts with an RSA key has as many bytes as the modulus. Every
other text that differs in this segment only, and whose wrapped key denotes the same number, however
leniently it is decoded, is refused with an error that names the key. -/
theorem refuses_rewrapped (kid : String) (key : Rsa.PrivateKey) {token : String}
    {plaintext : Bytes} (htoken : (Decrypter.rsa kid key).decrypt token = .ok plaintext) :
    ∃ header wrapped nonce ciphertext tag bs,
      Dotted.split token = [header, wrapped, nonce, ciphertext, tag] ∧
      Base64Url.decode? wrapped = some bs ∧ bs.length = byteLength key.modulus ∧
      ∀ read : String → Option Bytes, (∀ cs, read (Base64Url.encode cs) = some cs) →
        ∀ token' wrapped' bs', Dotted.split token' = [header, wrapped', nonce, ciphertext, tag] →
          token' ≠ token → read wrapped' = some bs' → toNat bs' = toNat bs →
            (Decrypter.rsa kid key).decrypt token' =
              .error (.decryptionFailed kid (rewrappingFault wrapped').message) := by
  obtain ⟨hb, wb, nb, s, rfl, h, content, hheader, halg, henc, hkey, -, -, -⟩ :=
    decrypt_eq_ok_iff.1 htoken
  have hsplit := split_parts hb wb nb s
  refine ⟨_, _, _, _, _, wb, hsplit, Base64Url.decode?_encode wb, length_of_contentKey_rsa hkey, ?_⟩
  intro read hread token' wrapped' bs' hsplit' hne hbs hnumber
  have hlength : ∀ cs, Base64Url.decode? wrapped' = some cs →
      cs.length ≠ byteLength key.modulus := by
    rintro cs hcs hlength
    obtain rfl := Base64Url.decode?_eq_some_iff.1 hcs
    obtain rfl : cs = bs' := Option.some.inj ((hread cs).symm.trans hbs)
    -- as many bytes that denote the same number are the same bytes
    obtain rfl := toNat_injective (hlength.trans (length_of_contentKey_rsa hkey).symm) hnumber
    exact hne ((Dotted.join_split token').symm.trans (congrArg Dotted.join hsplit'))
  have hfault := decryptSegments_of_contentKey_error hheader halg henc
    (contentKey_of_rewrapped kid hlength) (Base64Url.encode nb) (Base64Url.encode s.ciphertext)
    (Base64Url.encode s.tag)
  rw [decrypt, hsplit']
  simp only [hfault]
  rfl

/-- A zero before the wrapped key is noticed. -/
theorem refuses_rewrapped_sample :
    ∃ token token', (Decrypter.rsa "a" .sample).decrypt token = .ok [104, 105] ∧ token' ≠ token ∧
      (Decrypter.rsa "a" .sample).decrypt token' =
        .error (.decryptionFailed "a" "key unwrap failed") := by
  have hkey := Rsa.PrivateKey.strong_sample
  generalize Rsa.PrivateKey.sample = key at hkey ⊢
  obtain ⟨hlarge, -, -⟩ := Rsa.PrivateKey.checkSigning_eq_ok hkey.signs
  have hsize : ContentCipher.keyLength .a256gcm + 66 ≤ key.toPublic.size := by
    have hbytes : key.toPublic.size = byteLength key.modulus := rfl
    have hneeded : ContentCipher.keyLength .a256gcm + 66 = 98 := rfl
    omega
  have hlength : ([104, 105] : Bytes).length ≤ Gcm.lengthLimit := by decide
  obtain ⟨t, ht⟩ := Encrypter.exists_encrypt_rsa "a" .zeros none hsize hlength
  have hdecrypt :=
    (Matching.rsa "a" (hkey.sound.unwraps hkey.prime1 hkey.prime2)).decrypt_of_encrypt ht
  obtain ⟨header, wrapped, nonce, ciphertext, tag, bs, hsplit, hbytes, -, hrefuses⟩ :=
    refuses_rewrapped "a" key hdecrypt
  have hdotless : ∀ segment ∈ [header, Base64Url.encode (0 :: bs), nonce, ciphertext, tag],
      Dotted.Dotless segment := by
    have hmem : ∀ segment ∈ [header, wrapped, nonce, ciphertext, tag], Dotted.Dotless segment :=
      hsplit ▸ fun _ ↦ Dotted.dotless_of_mem_split
    simp only [List.mem_cons, List.not_mem_nil, or_false, forall_eq_or_imp, forall_eq] at hmem ⊢
    exact ⟨hmem.1, Base64Url.dotless_encode _, hmem.2.2⟩
  have hsplit' := Dotted.split_join (List.cons_ne_nil _ _) hdotless
  have hne : Dotted.join [header, Base64Url.encode (0 :: bs), nonce, ciphertext, tag] ≠
      t.compact := by
    intro heq
    rw [heq, hsplit] at hsplit'
    simp only [List.cons.injEq, true_and, and_true] at hsplit'
    rw [hsplit', Base64Url.decode?_encode] at hbytes
    exact List.cons_ne_self _ _ (Option.some.inj hbytes)
  have hrefused := hrefuses Base64Url.decode? Base64Url.decode?_encode _ _ (0 :: bs) hsplit' hne
    (Base64Url.decode?_encode _) (toNat_zero_cons bs)
  rw [rewrappingFault, Base64Url.decode?_encode] at hrefused
  exact ⟨_, _, hdecrypt, hne, hrefused⟩

end Decrypter

end SignOn.Jose
