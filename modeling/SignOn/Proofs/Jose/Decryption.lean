import SignOn.Proofs.Crypto.Gcm
import SignOn.Proofs.Jose.Header
import SignOn.Proofs.Jose.SharedSecret

/-!
# Which texts decrypt

Every check of a decrypter is exact: a text decrypts if and only if it is the canonical form of
parts that seal a plaintext for the key. So a text cannot be changed without changing a part.
-/

namespace SignOn.Jose

open Crypto Outcome Text

/-! ## The content -/

namespace ContentCipher

variable {m : ContentCipher} {key : Bytes}

/-- A key of the right length is made of whole words. -/
theorem dvd_length_and_ne_nil (h : key.length = m.keyLength) : 4 ∣ key.length ∧ key ≠ [] := by
  have hlength : 4 ∣ m.keyLength ∧ 0 < m.keyLength := by
    cases m <;> decide
  rw [← h] at hlength
  exact ⟨hlength.1, List.ne_nil_of_length_pos hlength.2⟩

/-- What is needed of the lengths in order to seal a text, and what follows for what was sealed. -/
theorem length_of_encrypt? {nonce associated text : Bytes} {s : Gcm.Sealed}
    (hnonce : nonce.length = nonceLength) (h : m.encrypt? key nonce associated text = some s) :
    key.length = m.keyLength ∧ s.ciphertext.length = text.length ∧ s.tag.length = tagLength := by
  rw [encrypt?] at h
  split at h
  · next hlength =>
    obtain rfl := Option.some.inj h
    obtain ⟨hdvd, hne⟩ := dvd_length_and_ne_nil hlength.1
    exact ⟨hlength.1, Gcm.length_ciphertext_encrypt hdvd hne hnonce associated text,
      Gcm.length_tag_encrypt hdvd hne hnonce associated text⟩
  · cases h

/-- A text is what a sealed text opens to if and only if it is what was sealed. -/
theorem decrypt?_eq_some_iff {nonce associated text : Bytes} {s : Gcm.Sealed}
    (hnonce : nonce.length = nonceLength) :
    m.decrypt? key nonce associated s = some text ↔
      m.encrypt? key nonce associated text = some s := by
  by_cases hkey : key.length = m.keyLength
  · obtain ⟨hdvd, hne⟩ := dvd_length_and_ne_nil hkey
    have hopen := Gcm.decrypt?_eq_some_iff hdvd hne hnonce associated text (s := s)
    have hlength := Gcm.length_ciphertext_encrypt hdvd hne hnonce associated text
    simp only [decrypt?, encrypt?, hkey, true_and, Option.ite_none_right_eq_some,
      Option.some.injEq, hopen]
    constructor
    · rintro ⟨hle, rfl⟩
      exact ⟨hlength ▸ hle, rfl⟩
    · rintro ⟨hle, rfl⟩
      exact ⟨hlength.symm ▸ hle, rfl⟩
  · simp [decrypt?, encrypt?, hkey]

end ContentCipher

/-! ## The grammar of tokens -/

namespace Decrypter

variable {x : Decrypter}

/-- The parts seal a plaintext for a key: the header names an algorithm and a method of the key, and
the content is sealed under the content key and bound to the header as it was encoded. -/
def Opens (x : Decrypter) (header wrapped nonce : Bytes) (s : Gcm.Sealed) (plaintext : Bytes) :
    Prop :=
  ∃ h key, EncryptionHeader.decode.runBytes header = .ok h ∧ h.alg ∈ x.algorithms ∧
    h.enc ∈ x.methods ∧ x.contentKey wrapped = .ok key ∧ nonce.length = nonceLength ∧
    s.tag.length = tagLength ∧
    h.enc.encrypt? key nonce (utf8 (Base64Url.encode header)) plaintext = some s

/-- The parts of a token in the order in which they are written. -/
def parts (header wrapped nonce : Bytes) (s : Gcm.Sealed) : List Bytes :=
  [header, wrapped, nonce, s.ciphertext, s.tag]

theorem split_parts (header wrapped nonce : Bytes) (s : Gcm.Sealed) :
    Dotted.split (Dotted.join ((parts header wrapped nonce s).map Base64Url.encode)) =
      (parts header wrapped nonce s).map Base64Url.encode :=
  Base64Url.split_join_encode (List.cons_ne_nil _ _)

theorem bytesOf_encode (part : String) (bs : Bytes) :
    bytesOf part (Base64Url.encode bs) = .ok bs := by
  rw [bytesOf, Base64Url.decode?_encode]

theorem bytesOf_eq_ok_iff {part segment : String} {bs : Bytes} :
    bytesOf part segment = .ok bs ↔ segment = Base64Url.encode bs := by
  rw [bytesOf, ← Base64Url.decode?_eq_some_iff]
  cases Base64Url.decode? segment <;> simp

/-- The checks behind the one that decodes the header. -/
theorem decryptSegments_encode_eq_ok_iff {hb plaintext : Bytes} {h : EncryptionHeader}
    (hheader : EncryptionHeader.decode.runBytes hb = .ok h)
    {wrapped nonce ciphertext tag : String} :
    x.decryptSegments (Base64Url.encode hb) wrapped nonce ciphertext tag = .ok plaintext ↔
      h.alg ∈ x.algorithms ∧ h.enc ∈ x.methods ∧ ∃ wb, wrapped = Base64Url.encode wb ∧
        ∃ key, x.contentKey wb = .ok key ∧ key.length = h.enc.keyLength ∧
          ∃ nb, nonce = Base64Url.encode nb ∧ nb.length = Jose.nonceLength ∧
            ∃ tb, tag = Base64Url.encode tb ∧ tb.length = Jose.tagLength ∧
              ∃ cb, ciphertext = Base64Url.encode cb ∧
                h.enc.decrypt? key nb (utf8 (Base64Url.encode hb)) ⟨cb, tb⟩ = some plaintext := by
  rw [decryptSegments, bytesOf_encode, ok_bind, hheader]
  simp only [pure_eq, ok_bind, error_bind, ite_error_eq_ok_iff, bind_eq_ok_iff, bytesOf_eq_ok_iff,
    Decidable.not_not, ne_eq]
  refine and_congr_right fun _ ↦ and_congr_right fun _ ↦ exists_congr fun wb ↦
    and_congr_right fun _ ↦ exists_congr fun key ↦ and_congr_right fun _ ↦
    and_congr_right fun _ ↦ exists_congr fun nb ↦ and_congr_right fun _ ↦
    and_congr_right fun _ ↦ exists_congr fun tb ↦ and_congr_right fun _ ↦
    and_congr_right fun _ ↦ exists_congr fun cb ↦ and_congr_right fun _ ↦ ?_
  cases h.enc.decrypt? key nb (utf8 (Base64Url.encode hb)) ⟨cb, tb⟩ <;> simp

theorem decryptSegments_eq_ok_iff {header wrapped nonce ciphertext tag : String}
    {plaintext : Bytes} :
    x.decryptSegments header wrapped nonce ciphertext tag = .ok plaintext ↔
      ∃ hb wb nb s, [header, wrapped, nonce, ciphertext, tag] =
        (parts hb wb nb s).map Base64Url.encode ∧ x.Opens hb wb nb s plaintext := by
  constructor
  · intro hdecrypt
    obtain ⟨hb, hbytes, hrest⟩ := bind_eq_ok_iff.1 hdecrypt
    obtain rfl := bytesOf_eq_ok_iff.1 hbytes
    cases hheader : EncryptionHeader.decode.runBytes hb with
    | error e =>
      rw [hheader] at hrest
      cases hrest
    | ok h =>
      obtain ⟨halg, henc, wb, rfl, key, hkey, -, nb, rfl, hnonce, tb, rfl, htag, cb, rfl, hopen⟩ :=
        (decryptSegments_encode_eq_ok_iff hheader).1 hdecrypt
      exact ⟨hb, wb, nb, ⟨cb, tb⟩, rfl, h, key, hheader, halg, henc, hkey, hnonce, htag,
        (ContentCipher.decrypt?_eq_some_iff hnonce).1 hopen⟩
  · rintro ⟨hb, wb, nb, s, hparts, h, key, hheader, halg, henc, hkey, hnonce, htag, hseal⟩
    simp only [parts, List.map_cons, List.map_nil, List.cons.injEq, and_true] at hparts
    obtain ⟨rfl, rfl, rfl, rfl, rfl⟩ := hparts
    exact (decryptSegments_encode_eq_ok_iff hheader).2 ⟨halg, henc, wb, rfl, key, hkey,
      (ContentCipher.length_of_encrypt? hnonce hseal).1, nb, rfl, hnonce, s.tag, rfl, htag,
      s.ciphertext, rfl, (ContentCipher.decrypt?_eq_some_iff hnonce).2 hseal⟩

/-- A text decrypts if and only if it is the canonical form of parts that open. -/
theorem decrypt_eq_ok_iff {token : String} {plaintext : Bytes} :
    x.decrypt token = .ok plaintext ↔
      ∃ header wrapped nonce s,
        token = Dotted.join ((parts header wrapped nonce s).map Base64Url.encode) ∧
        x.Opens header wrapped nonce s plaintext := by
  constructor
  · intro h
    rw [decrypt] at h
    split at h
    · next plaintext' hresult =>
      obtain rfl := Except.ok.inj h
      split at hresult
      · next header wrapped nonce ciphertext tag hsplit =>
        obtain ⟨hb, wb, nb, s, hparts, hopens⟩ := decryptSegments_eq_ok_iff.1 hresult
        refine ⟨hb, wb, nb, s, ?_, hopens⟩
        rw [← hparts, ← hsplit, Dotted.join_split]
      · cases hresult
    · cases h
  · rintro ⟨hb, wb, nb, s, rfl, hopens⟩
    have hsegments := decryptSegments_eq_ok_iff.2 ⟨hb, wb, nb, s, rfl, hopens⟩
    rw [decrypt, split_parts]
    simp only [parts, List.map_cons, List.map_nil]
    rw [hsegments]

/-- Whatever is wrong with a text, the error names the key. -/
theorem decrypt_eq_error {token : String} {e : Error} (h : x.decrypt token = .error e) :
    ∃ fault : DecryptionFault, e = .decryptionFailed x.kid fault.message := by
  rw [decrypt] at h
  split at h
  · cases h
  · next fault _ => exact ⟨fault, (Except.error.inj h).symm⟩

/-- Two texts that decrypt are equal if their segments decode to the same bytes, however leniently
they are decoded. -/
theorem eq_of_decrypt {y : Decrypter} {token token' : String} {plaintext plaintext' : Bytes}
    (h : x.decrypt token = .ok plaintext) (h' : y.decrypt token' = .ok plaintext')
    {read : String → Option Bytes} (hread : ∀ bs, read (Base64Url.encode bs) = some bs)
    (heq : (Dotted.split token).map read = (Dotted.split token').map read) : token = token' := by
  obtain ⟨header, wrapped, nonce, s, rfl, -⟩ := decrypt_eq_ok_iff.1 h
  obtain ⟨header', wrapped', nonce', s', rfl, -⟩ := decrypt_eq_ok_iff.1 h'
  have hdecoded (bss : List Bytes) : (bss.map Base64Url.encode).map read = bss.map some := by
    rw [List.map_map]
    exact List.map_congr_left fun bs _ ↦ hread bs
  rw [split_parts, split_parts, hdecoded, hdecoded] at heq
  rw [List.map_injective_iff.2 (Option.some_injective Bytes) heq]

/-! ## Shared secrets -/

/-- A text in compact form seals a plaintext directly under a secret: its header asks for that and
for the method, there is no wrapped key, and behind the nonce stand the ciphertext and its tag. -/
def SealsDirectly (secret : Bytes) (m : ContentCipher) (token : String) (plaintext : Bytes) :
    Prop :=
  ∃ (header nonce ciphertext tag : Bytes) (h : EncryptionHeader),
    EncryptionHeader.decode.runBytes header = .ok h ∧ h.alg = .direct ∧ h.enc = m ∧
    nonce.length = 12 ∧ tag.length = 16 ∧
    token = Base64Url.encode header ++ ".." ++ Base64Url.encode nonce ++ "." ++
      Base64Url.encode ciphertext ++ "." ++ Base64Url.encode tag ∧
    m.encrypt? secret nonce (utf8 (Base64Url.encode header)) plaintext = some ⟨ciphertext, tag⟩

theorem contentKey_direct_eq_ok_iff {kid : String} {secret wrapped key : Bytes}
    {m : ContentCipher} :
    (Decrypter.direct kid secret m).contentKey wrapped = .ok key ↔ wrapped = [] ∧ key = secret := by
  rw [contentKey]
  split
  · next h => simp [h, eq_comm]
  · next h => simp [h]

theorem join_parts_nil (header nonce : Bytes) (s : Gcm.Sealed) :
    Dotted.join ((parts header [] nonce s).map Base64Url.encode) =
      Base64Url.encode header ++ ".." ++ Base64Url.encode nonce ++ "." ++
        Base64Url.encode s.ciphertext ++ "." ++ Base64Url.encode s.tag := by
  have hempty : Base64Url.encode [] = "" := rfl
  have hdots : ".." = "." ++ "." := rfl
  simp only [parts, List.map_cons, List.map_nil, Dotted.join_cons_cons, Dotted.join_singleton,
    hempty, hdots, String.empty_append, String.append_assoc]

theorem decrypt_direct_eq_ok_iff {kid token : String} {secret plaintext : Bytes}
    {m : ContentCipher} :
    (Decrypter.direct kid secret m).decrypt token = .ok plaintext ↔
      SealsDirectly secret m token plaintext := by
  rw [decrypt_eq_ok_iff]
  constructor
  · rintro ⟨header, wrapped, nonce, s, rfl, h, key, hheader, halg, henc, hkey, hnonce, htag, hseal⟩
    obtain ⟨rfl, rfl⟩ := contentKey_direct_eq_ok_iff.1 hkey
    obtain rfl := List.mem_singleton.1 henc
    exact ⟨header, nonce, s.ciphertext, s.tag, h, hheader, List.mem_singleton.1 halg, rfl, hnonce,
      htag, join_parts_nil header nonce s, hseal⟩
  · rintro ⟨header, nonce, ciphertext, tag, h, hheader, halg, rfl, hnonce, htag, rfl, hseal⟩
    exact ⟨header, [], nonce, ⟨ciphertext, tag⟩,
      (join_parts_nil header nonce ⟨ciphertext, tag⟩).symm, h, secret, hheader,
      List.mem_singleton.2 halg, List.mem_singleton.2 rfl,
      contentKey_direct_eq_ok_iff.2 ⟨rfl, rfl⟩, hnonce, htag, hseal⟩

theorem exists_ofJwk_of_sharedSecret (kid : String) {k : Jwk} (hk : k.kind = .octets)
    {secret : Bytes} (hsecret : k.sharedSecret = .ok secret)
    (hlength : secret.length = 16 ∨ secret.length = 32) :
    ∃ m : ContentCipher, m.keyLength = secret.length ∧
      Decrypter.ofJwk kid k = .ok (some (.direct kid secret m)) := by
  have hmethod : ∃ m : ContentCipher, m.keyLength = secret.length := by
    rcases hlength with h | h
    · exact ⟨.a128gcm, h.symm⟩
    · exact ⟨.a256gcm, h.symm⟩
  obtain ⟨m, hm⟩ := hmethod
  exact ⟨m, hm, ofJwk_eq_some_iff.2 (.inr ⟨hk, secret, m, hsecret, hm, rfl⟩)⟩

/-- With a shared secret of 16 or of 32 bytes there is one method. Exactly the texts decrypt that
seal a plaintext directly under the secret, to this plaintext; every other text is refused with an
error that names the key; and there is one such text for the bytes in its segments, whatever decoder
reads them. -/
theorem decrypts_exactly (kid : String) {k : Jwk} (hk : k.kind = .octets) {secret : Bytes}
    (hsecret : k.sharedSecret = .ok secret) (hlength : secret.length = 16 ∨ secret.length = 32) :
    ∃ x m, Decrypter.ofJwk kid k = .ok (some x) ∧ x.methods = [m] ∧
      m.keyLength = secret.length ∧
      (∀ token plaintext,
        x.decrypt token = .ok plaintext ↔ SealsDirectly secret m token plaintext) ∧
      (∀ token, (∀ plaintext, ¬SealsDirectly secret m token plaintext) →
        ∃ fault : DecryptionFault,
          x.decrypt token = .error (.decryptionFailed kid fault.message)) ∧
      (∀ read : String → Option Bytes, (∀ bs, read (Base64Url.encode bs) = some bs) →
        ∀ token token' plaintext plaintext', x.decrypt token = .ok plaintext →
          x.decrypt token' = .ok plaintext' →
          (Dotted.split token).map read = (Dotted.split token').map read → token = token') := by
  obtain ⟨m, hm, hx⟩ := exists_ofJwk_of_sharedSecret kid hk hsecret hlength
  refine ⟨_, m, hx, rfl, hm, fun _ _ ↦ decrypt_direct_eq_ok_iff, fun token hnot ↦ ?_,
    fun read hread _ _ _ _ h h' heq ↦ eq_of_decrypt h h' hread heq⟩
  cases hresult : (Decrypter.direct kid secret m).decrypt token with
  | ok plaintext => exact absurd (decrypt_direct_eq_ok_iff.1 hresult) (hnot plaintext)
  | error e =>
    obtain ⟨fault, rfl⟩ := decrypt_eq_error hresult
    exact ⟨fault, rfl⟩

/-- Every method seals every text that is not too long. -/
theorem exists_sealsDirectly {secret : Bytes} {m : ContentCipher}
    (hlength : secret.length = m.keyLength) {plaintext : Bytes}
    (hplaintext : plaintext.length ≤ Gcm.lengthLimit) :
    ∃ token, SealsDirectly secret m token plaintext := by
  let h : EncryptionHeader := ⟨.direct, m, none, none⟩
  let nonce : Bytes := List.replicate 12 0
  have hnonce : nonce.length = nonceLength := List.length_replicate
  obtain ⟨⟨ciphertext, tag⟩, hseal⟩ : ∃ s,
      m.encrypt? secret nonce (utf8 h.segment) plaintext = some s :=
    ⟨_, if_pos ⟨hlength, hplaintext⟩⟩
  have htag := (ContentCipher.length_of_encrypt? hnonce hseal).2.2
  exact ⟨_, utf8 h.toJson.text, nonce, ciphertext, tag, h, EncryptionHeader.decode_toJson h, rfl,
    rfl, hnonce, htag, rfl, hseal⟩

/-- It is so of the secret that consists of zeros, under which there is a text that decrypts. -/
theorem decrypts_exactly_sample :
    ∃ x m token, Decrypter.ofJwk "a" (.ofSecret "a" (List.replicate 32 0)) = .ok (some x) ∧
      SealsDirectly (List.replicate 32 0) m token [104, 105] ∧
      x.decrypt token = .ok [104, 105] := by
  have hlength : (List.replicate 32 (0 : UInt8)).length = 32 := List.length_replicate
  have hsecret := Jwk.sharedSecret_ofSecret "a" (List.ne_nil_of_length_eq_add_one hlength)
  obtain ⟨x, m, hx, -, hm, hdecrypt, -⟩ :=
    decrypts_exactly "a" (Jwk.kind_ofSecret "a" _) hsecret (.inr hlength)
  have hplaintext : [(104 : UInt8), 105].length ≤ Gcm.lengthLimit := by decide
  obtain ⟨token, htoken⟩ := exists_sealsDirectly hm.symm hplaintext
  exact ⟨x, m, token, hx, htoken, (hdecrypt token _).2 htoken⟩

end Decrypter

end SignOn.Jose
