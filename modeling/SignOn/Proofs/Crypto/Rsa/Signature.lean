import SignOn.Crypto.Rsa.Signature
import SignOn.Proofs.Crypto.Digest
import SignOn.Proofs.Crypto.Rsa.Key

/-!
# Checking signatures with the public numbers

Signing ends with the public operation, which has to give back the encoded message. So a signature
is accepted as soon as the encoding fits the message and the public numbers may be used at all.
-/

namespace SignOn.Crypto.Rsa

open Outcome

/-- Whatever the private key signs is valid under the public numbers. Salts are as long as
digests. -/
def PrivateKey.SignsFor (k : PrivateKey) (v : VerifyingKey) : Prop :=
  ∀ padding h salt message signature, salt.length = Hash.length h →
    k.sign padding h salt message = .ok signature →
      v.verify padding h message signature = true

/-! ## The fixed encoding -/

theorem length_digestHeader (h : Hash) : (digestHeader h).length = 19 := by
  cases h <;> rfl

theorem length_encodeFixed (h : Hash) (size : Nat) (hsize : 22 + h.length ≤ size)
    (message : Bytes) : (encodeFixed h size message).length = size := by
  simp only [encodeFixed, List.cons_append, List.length_cons, List.length_append,
    List.length_replicate, length_digestHeader, Hash.length_digest]
  omega

/-! ## The salted encoding -/

@[simp] theorem length_keepBits (bits : Nat) (bs : Bytes) :
    (keepBits bits bs).length = bs.length := length_ofNat _ _

theorem toNat_keepBits (bits : Nat) (bs : Bytes) :
    toNat (keepBits bits bs) = toNat bs % 2 ^ bits := by
  have hlt : toNat bs % 2 ^ bits < 256 ^ bs.length :=
    Nat.lt_of_le_of_lt (Nat.mod_le _ _) (toNat_lt bs)
  exact toNat_ofNat_of_lt hlt

theorem keepBits_of_lt {bits : Nat} {bs : Bytes} (h : toNat bs < 2 ^ bits) :
    keepBits bits bs = bs := by
  refine toNat_injective (length_keepBits bits bs) ?_
  rw [toNat_keepBits, Nat.mod_eq_of_lt h]

/-- Bits that are dropped in the end need not be kept before. -/
theorem keepBits_xor_keepBits (bits : Nat) {xs ys : Bytes} (h : xs.length = ys.length) :
    keepBits bits (xor (keepBits bits xs) ys) = keepBits bits (xor xs ys) := by
  refine toNat_injective (by simp) ?_
  rw [toNat_keepBits, toNat_keepBits, toNat_xor (by rw [length_keepBits, h]), toNat_xor h,
    toNat_keepBits, Nat.xor_mod_two_pow, Nat.mod_mod, ← Nat.xor_mod_two_pow]

/-- Zeros, a one and the salt. -/
def saltBlock (h : Hash) (bits : Nat) (salt : Bytes) : Bytes :=
  List.replicate ((bits + 7) / 8 - 2 * h.length - 2) 0 ++ 1 :: salt

theorem encodeSalted_eq (h : Hash) (bits : Nat) (message salt : Bytes) :
    encodeSalted h bits message salt =
      keepBits (bits - 8 * (h.length + 1)) (xor (saltBlock h bits salt)
        (mask h (saltedDigest h message salt) (saltBlock h bits salt).length)) ++
        saltedDigest h message salt ++ [0xbc] := rfl

section

variable {h : Hash} {bits : Nat} {salt : Bytes} (hsalt : salt.length = h.length)
  (hbits : 16 * h.length + 16 ≤ bits)

include hsalt hbits

theorem length_saltBlock : (saltBlock h bits salt).length + h.length + 1 = (bits + 7) / 8 := by
  rw [saltBlock, List.length_append, List.length_replicate, List.length_cons, hsalt]
  omega

theorem toNat_saltBlock_lt : toNat (saltBlock h bits salt) < 2 ^ (bits - 8 * (h.length + 1)) := by
  have hzeros (n : Nat) : toNat (List.replicate n 0) = 0 := by
    induction n with
    | zero => rfl
    | succ n ih => exact ih
  have hlow : toNat (1 :: salt) < 2 ^ (8 * salt.length + 1) := by
    have hlt := toNat_lt salt
    have hpow : 256 ^ salt.length = 2 ^ (8 * salt.length) := by rw [pow_mul]; rfl
    have hone : (1 : UInt8).toNat = 1 := rfl
    rw [hpow] at hlt
    rw [toNat_cons, hone, pow_succ]
    omega
  rw [saltBlock, toNat_append, hzeros, Nat.zero_mul, Nat.zero_add]
  refine Nat.lt_of_lt_of_le hlow (Nat.pow_le_pow_right (by decide) ?_)
  omega

theorem length_encodeSalted (message : Bytes) :
    (encodeSalted h bits message salt).length = (bits + 7) / 8 := by
  have hblock := length_saltBlock hsalt hbits
  have hdigest : (saltedDigest h message salt).length = h.length := Hash.length_digest h _
  rw [encodeSalted_eq, List.length_append, List.length_append, length_keepBits, length_xor,
    length_mask, hdigest, Nat.min_self, List.length_singleton, hblock]

theorem toNat_encodeSalted_lt (message : Bytes) :
    toNat (encodeSalted h bits message salt) < 2 ^ bits := by
  have hdigest : (saltedDigest h message salt).length = h.length := Hash.length_digest h _
  have htail := toNat_lt (saltedDigest h message salt ++ [0xbc])
  have hpow : (256 : Nat) ^ (h.length + 1) = 2 ^ (8 * (h.length + 1)) := by rw [pow_mul]; rfl
  have hsplit : 2 ^ bits = 2 ^ (bits - 8 * (h.length + 1)) * 2 ^ (8 * (h.length + 1)) := by
    rw [← pow_add]
    congr 1
    omega
  rw [List.length_append, hdigest, List.length_singleton, hpow] at htail
  rw [encodeSalted_eq, List.append_assoc, toNat_append, List.length_append, hdigest,
    List.length_singleton, hpow, hsplit, toNat_keepBits]
  generalize hkept : toNat (xor (saltBlock h bits salt) (mask h (saltedDigest h message salt)
    (saltBlock h bits salt).length)) % 2 ^ (bits - 8 * (h.length + 1)) = kept
  have hkeptlow : kept < 2 ^ (bits - 8 * (h.length + 1)) := by
    rw [← hkept]
    exact Nat.mod_lt _ (by positivity)
  calc kept * 2 ^ (8 * (h.length + 1)) + toNat (saltedDigest h message salt ++ [0xbc])
      < kept * 2 ^ (8 * (h.length + 1)) + 2 ^ (8 * (h.length + 1)) := by omega
    _ = (kept + 1) * 2 ^ (8 * (h.length + 1)) := by ring
    _ ≤ 2 ^ (bits - 8 * (h.length + 1)) * 2 ^ (8 * (h.length + 1)) :=
      Nat.mul_le_mul_right _ hkeptlow

/-- The salted encoding of a message fits it. -/
theorem fitsSalted_encodeSalted (message : Bytes) :
    fitsSalted h bits message (encodeSalted h bits message salt) = true := by
  have hsize := length_saltBlock hsalt hbits
  have hlength := length_encodeSalted hsalt hbits message
  have hlow := toNat_saltBlock_lt hsalt hbits
  have hdigest : (saltedDigest h message salt).length = h.length := Hash.length_digest h _
  have henc := encodeSalted_eq h bits message salt
  generalize hkept : keepBits (bits - 8 * (h.length + 1)) (xor (saltBlock h bits salt)
    (mask h (saltedDigest h message salt) (saltBlock h bits salt).length)) = kept at henc
  have hkeptlength : kept.length = (saltBlock h bits salt).length := by
    rw [← hkept, length_keepBits, length_xor, length_mask, Nat.min_self]
  -- the mask comes off again, since the block has no more bits than were kept
  have hblock : keepBits (bits - 8 * (h.length + 1)) (xor kept
      (mask h (saltedDigest h message salt) kept.length)) = saltBlock h bits salt := by
    rw [hkeptlength, ← hkept, keepBits_xor_keepBits _ (by simp), xor_xor (by simp)]
    exact keepBits_of_lt hlow
  have hbelow := toNat_encodeSalted_lt hsalt hbits message
  have hfront : (bits + 7) / 8 - h.length - 1 = kept.length := by omega
  have htake : (encodeSalted h bits message salt).take kept.length = kept := by
    rw [henc, List.append_assoc]
    exact List.take_left
  have hdrop : (encodeSalted h bits message salt).drop kept.length =
      saltedDigest h message salt ++ [0xbc] := by
    rw [henc, List.append_assoc]
    exact List.drop_left
  have hmiddle : (saltedDigest h message salt ++ [0xbc]).take h.length =
      saltedDigest h message salt := List.take_left' hdigest
  have hend : (encodeSalted h bits message salt).drop ((bits + 7) / 8 - 1) = [0xbc] := by
    rw [henc]
    exact List.drop_left' (by rw [List.length_append, hdigest]; omega)
  have hzeros : (saltBlock h bits salt).take ((bits + 7) / 8 - 2 * h.length - 2) =
      List.replicate ((bits + 7) / 8 - 2 * h.length - 2) 0 :=
    List.take_left' (List.length_replicate)
  have hrest : (saltBlock h bits salt).drop ((bits + 7) / 8 - 2 * h.length - 2) = 1 :: salt :=
    List.drop_left' (List.length_replicate)
  have hsalt' : (saltBlock h bits salt).drop ((bits + 7) / 8 - 2 * h.length - 2 + 1) = salt := by
    rw [← List.drop_drop, hrest]
    rfl
  have hroom : 2 * h.length + 2 ≤ (bits + 7) / 8 := by omega
  simp only [fitsSalted, hfront, htake, hdrop, hmiddle, hblock, hzeros, hrest, hsalt', hend,
    hlength, hroom]
  simpa using hbelow

end

/-! ## Signatures -/

theorem VerifyingKey.Usable.le_size {v : VerifyingKey} (hv : v.Usable) : 256 ≤ v.toPublic.size := by
  have hbytes : 2048 ≤ 8 * byteLength (toNat v.modulus) := hv.2.2.1
  have hsize : v.toPublic.size = byteLength (toNat v.modulus) := rfl
  omega

/-- An encoding with one bit less than a number is found again in as many octets as the number has,
behind a zero if it fits one octet less. -/
theorem fitsSalted_ofNat {h : Hash} {size bits : Nat} {salt message encoded : Bytes}
    (hencoded : encoded = ofNat size (toNat (encodeSalted h bits message salt)))
    (hsize : size = bits / 8 + 1) (hsalt : salt.length = h.length)
    (hroom : 16 * h.length + 16 ≤ bits) :
    (if bits % 8 = 0 then encoded.take 1 = [0] && fitsSalted h bits message (encoded.drop 1)
      else fitsSalted h bits message encoded) = true := by
  have hlength := length_encodeSalted hsalt hroom message
  have hfits := fitsSalted_encodeSalted hsalt hroom message
  split
  · next hmultiple =>
    have hcons := ofNat_toNat (0 :: encodeSalted h bits message salt)
    rw [toNat_zero_cons, List.length_cons, hlength,
      show (bits + 7) / 8 + 1 = size by omega, ← hencoded] at hcons
    rw [hcons]
    exact hfits
  · next hmultiple =>
    have hwhole := ofNat_toNat (encodeSalted h bits message salt)
    rw [hlength, show (bits + 7) / 8 = size by omega, ← hencoded] at hwhole
    rw [hwhole]
    exact hfits

/-- A signature is accepted if the public operation on it gives the encoding of the message. -/
theorem VerifyingKey.verify_ofNat {v : VerifyingKey} (hv : v.Usable) {padding : Padding} {h : Hash}
    {salt message : Bytes} {m : Nat} (hsalt : salt.length = h.length) (hm : m < v.toPublic.modulus)
    (happly : v.toPublic.apply m = toNat (match padding with
      | .fixed => encodeFixed h v.toPublic.size message
      | .salted => encodeSalted h (bitLength v.toPublic.modulus - 1) message salt)) :
    v.verify padding h message (ofNat v.toPublic.size m) = true := by
  have hsize := hv.le_size
  have hdigest : h.length ≤ 64 := by cases h <;> decide
  have hsmall : m < 256 ^ v.toPublic.size := Nat.lt_trans hm (lt_pow_byteLength _)
  have hnumber : toNat (ofNat v.toPublic.size m) = m := toNat_ofNat_of_lt hsmall
  have hcond : v.Usable ∧ (ofNat v.toPublic.size m).length = v.toPublic.size ∧
      toNat (ofNat v.toPublic.size m) < v.toPublic.modulus := by
    rw [hnumber]
    exact ⟨hv, length_ofNat _ _, hm⟩
  rw [verify]
  dsimp only
  rw [if_pos hcond, hnumber, happly]
  cases padding with
  | fixed =>
    have hencoded := ofNat_toNat (encodeFixed h v.toPublic.size message)
    rw [length_encodeFixed h v.toPublic.size (by omega)] at hencoded
    simp only [hencoded, decide_true]
  | salted =>
    have hbytes : v.toPublic.size = (bitLength v.toPublic.modulus + 7) / 8 := rfl
    exact fitsSalted_ofNat rfl (by omega) hsalt (by omega)

/-- A private key signs for its public numbers if these may be used. -/
theorem PrivateKey.Sound.signsFor {k : PrivateKey} (hk : k.Sound) {v : VerifyingKey}
    (hv : v.Usable) (hpublic : v.toPublic = k.toPublic) : k.SignsFor v := by
  intro padding h salt message signature hsalt hsign
  obtain ⟨_, -, hsign⟩ := bind_eq_ok_iff.1 hsign
  split at hsign
  · next m hm =>
    obtain rfl := Except.ok.inj hsign
    obtain ⟨hlt, happly⟩ := hk.of_undo? hm
    rw [← hpublic] at happly ⊢
    refine VerifyingKey.verify_ofNat hv hsalt ?_ ?_
    · rw [hpublic]
      exact hlt
    · rw [happly, hpublic]
      cases padding <;> rfl
  · cases hsign

/-! ## Keys that sign every message -/

theorem PrivateKey.checkSigning_eq_ok {k : PrivateKey} (h : k.checkSigning = .ok ()) :
    2048 ≤ 8 * byteLength k.modulus ∧ bitLength k.modulus ≤ PublicKey.maxBits ∧
      65537 ≤ k.exponent := by
  simp only [checkSigning, error_bind, ite_error_eq_ok_iff, Nat.not_lt] at h
  obtain ⟨-, -, hlarge, hsmall, hexponent, -⟩ := h
  exact ⟨hlarge, hsmall, hexponent⟩

/-- A signature has as many octets as the modulus, at most 512. -/
theorem PrivateKey.length_of_sign {k : PrivateKey} {padding : Padding} {h : Hash}
    {salt message signature : Bytes} (hsign : k.sign padding h salt message = .ok signature) :
    signature.length ≤ 512 := by
  obtain ⟨_, hcheck, hsign⟩ := bind_eq_ok_iff.1 hsign
  obtain ⟨-, hbits, -⟩ := checkSigning_eq_ok hcheck
  split at hsign
  · next m _ =>
    obtain rfl := Except.ok.inj hsign
    have hsize : k.toPublic.size = (bitLength k.modulus + 7) / 8 := rfl
    have hmax : PublicKey.maxBits = 4096 := rfl
    rw [length_ofNat]
    omega
  · cases hsign

/-- A key with prime factors that passes the checks. -/
structure PrivateKey.Strong (k : PrivateKey) : Prop where
  sound : k.Sound
  prime1 : k.factor1.Prime
  prime2 : k.factor2.Prime
  signs : k.checkSigning = .ok ()

namespace PrivateKey.Strong

variable {k : PrivateKey} (hk : k.Strong)

include hk

theorem exists_sign (padding : Padding) {h : Hash} {salt : Bytes} (hsalt : salt.length = h.length)
    (message : Bytes) : ∃ signature, k.sign padding h salt message = .ok signature := by
  obtain ⟨hlarge, -, -⟩ := checkSigning_eq_ok hk.signs
  have hdigest : h.length ≤ 64 := by cases h <;> decide
  have hsize : k.toPublic.size = byteLength k.modulus := rfl
  have hlt : toNat (k.encoding padding h salt message) < k.modulus := by
    cases padding with
    | fixed =>
      have hlength := length_encodeFixed h k.toPublic.size (by omega) message
      obtain ⟨rest, hrest⟩ : ∃ rest, encodeFixed h k.toPublic.size message = 0 :: rest := ⟨_, rfl⟩
      rw [hrest, List.length_cons] at hlength
      have hlow : ¬byteLength k.modulus ≤ rest.length := by omega
      rw [byteLength_le_iff, Nat.not_lt] at hlow
      rw [encoding, hrest, toNat_zero_cons]
      exact Nat.lt_of_lt_of_le (toNat_lt rest) hlow
    | salted =>
      have hbytes : byteLength k.modulus = (bitLength k.modulus + 7) / 8 := rfl
      have hlow : ¬bitLength k.modulus ≤ bitLength k.modulus - 1 := by omega
      rw [bitLength_le_iff, Nat.not_lt] at hlow
      exact Nat.lt_of_lt_of_le (toNat_encodeSalted_lt hsalt (by omega) message) hlow
  obtain ⟨m, hm⟩ := hk.sound.exists_undo? hk.prime1 hk.prime2 hlt
  exact ⟨ofNat k.toPublic.size m, by rw [sign, hk.signs, ok_bind, hm]⟩

/-- The public numbers may be used if they are written without leading zeros. -/
theorem usable : VerifyingKey.Usable ⟨octets k.modulus, octets k.exponent⟩ := by
  obtain ⟨hlarge, hsmall, hexponent⟩ := checkSigning_eq_ok hk.signs
  obtain ⟨hodd, hodd', hbound⟩ := PublicKey.check_eq_ok hk.sound.check
  refine ⟨head?_octets_ne_zero _, head?_octets_ne_zero _, ?_⟩
  rw [toNat_octets, toNat_octets]
  exact ⟨hlarge, Nat.le_trans hsmall (by decide), hodd, Nat.le_trans (by decide) hexponent, hbound,
    hodd'⟩

theorem signsFor : k.SignsFor ⟨octets k.modulus, octets k.exponent⟩ := by
  refine hk.sound.signsFor hk.usable ?_
  rw [VerifyingKey.toPublic, toNat_octets, toNat_octets, toPublic]

end PrivateKey.Strong

end SignOn.Crypto.Rsa
