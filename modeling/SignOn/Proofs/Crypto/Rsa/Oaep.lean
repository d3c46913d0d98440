import SignOn.Crypto.Rsa.Oaep
import SignOn.Proofs.Crypto.Digest
import SignOn.Proofs.Crypto.Rsa.Key

/-!
# Wrapping and unwrapping with one key

The padding can be taken off again because each of its two halves is masked with bytes drawn from
the other. With prime factors the private operation undoes the public one, so the key unwraps what
its public half wrapped.
-/

namespace SignOn.Crypto.Rsa

/-- The private key unwraps whatever its public half wrapped, with a seed as long as a digest. -/
def PrivateKey.Unwraps (key : PrivateKey) : Prop :=
  ∀ seed content wrapped, seed.length = Oaep.hash.length →
    Oaep.wrap? key.toPublic seed content = some wrapped →
      Oaep.unwrap? key wrapped = some content

namespace Oaep

variable {size : Nat} {seed message : Bytes}

theorem afterOne_replicate (n : Nat) (message : Bytes) :
    afterOne (List.replicate n 0 ++ 1 :: message) = some message := by
  induction n with
  | zero => rfl
  | succ n ih =>
    rw [List.replicate_succ, List.cons_append, afterOne, if_pos rfl]
    exact ih

theorem length_pad (hseed : seed.length = hash.length)
    (hsize : message.length + 2 * hash.length + 2 ≤ size) :
    (pad size seed message).length = size := by
  simp only [pad, labelDigest, List.cons_append, List.length_cons, List.length_append, length_xor,
    length_mask, Hash.length_digest, List.length_replicate, hseed, Nat.min_self]
  omega

theorem unpad?_pad (hseed : seed.length = hash.length)
    (hsize : message.length + 2 * hash.length + 2 ≤ size) :
    unpad? (pad size seed message) = some message := by
  have hlabel : labelDigest.length = hash.length := Hash.length_digest hash []
  have hlength := length_pad hseed hsize
  obtain ⟨block, hblock⟩ : ∃ block, labelDigest ++ List.replicate
    (size - message.length - 2 * hash.length - 2) 0 ++ 1 :: message = block := ⟨_, rfl⟩
  obtain ⟨masked, hmasked⟩ : ∃ masked, xor block (mask hash seed block.length) = masked := ⟨_, rfl⟩
  have hpad : pad size seed message =
      0 :: (xor seed (mask hash masked hash.length) ++ masked) := by
    subst hblock hmasked
    rfl
  have hmasked' : masked.length = block.length := by
    rw [← hmasked, length_xor, length_mask, Nat.min_self]
  have hfront : (xor seed (mask hash masked hash.length)).length = hash.length := by
    rw [length_xor, length_mask, hseed, Nat.min_self]
  have htake : (xor seed (mask hash masked hash.length) ++ masked).take hash.length =
      xor seed (mask hash masked hash.length) := List.take_left' hfront
  have hdrop : (xor seed (mask hash masked hash.length) ++ masked).drop hash.length = masked :=
    List.drop_left' hfront
  have hseed' : xor (xor seed (mask hash masked hash.length)) (mask hash masked hash.length) =
      seed := xor_xor (by rw [length_mask, hseed])
  have hblock' : xor masked (mask hash seed masked.length) = block := by
    rw [hmasked', ← hmasked]
    exact xor_xor (by rw [length_mask])
  have hstart : block.take hash.length = labelDigest := by
    rw [← hblock, List.append_assoc]
    exact List.take_left' hlabel
  have hend : block.drop hash.length = List.replicate
      (size - message.length - 2 * hash.length - 2) 0 ++ 1 :: message := by
    rw [← hblock, List.append_assoc]
    exact List.drop_left' hlabel
  rw [hpad] at hlength ⊢
  rw [unpad?, if_neg (by omega)]
  simp only [hdrop, htake, hseed', hblock', hstart, hend, if_true]
  exact afterOne_replicate _ _

theorem toNat_pad_lt {modulus : Nat} (hseed : seed.length = hash.length)
    (hsize : message.length + 2 * hash.length + 2 ≤ byteLength modulus) :
    toNat (pad (byteLength modulus) seed message) < modulus := by
  have hlength := length_pad hseed hsize
  obtain ⟨rest, hrest⟩ : ∃ rest, pad (byteLength modulus) seed message = 0 :: rest := ⟨_, rfl⟩
  rw [hrest, List.length_cons] at hlength
  have hlow : ¬byteLength modulus ≤ rest.length := by omega
  rw [byteLength_le_iff, Nat.not_lt] at hlow
  rw [hrest, toNat_zero_cons]
  exact Nat.lt_of_lt_of_le (toNat_lt rest) hlow

end Oaep

/-- A key with prime factors unwraps what its public half wrapped. -/
theorem PrivateKey.Sound.unwraps {k : PrivateKey} (hk : k.Sound) (hp : k.factor1.Prime)
    (hq : k.factor2.Prime) : k.Unwraps := by
  intro seed content wrapped hseed h
  rw [Oaep.wrap?] at h
  split at h
  · cases h
  · next hsize =>
    obtain rfl := Option.some.inj h
    have hsize' : content.length + 2 * Oaep.hash.length + 2 ≤ k.toPublic.size :=
      Nat.not_lt.1 hsize
    have hlt : toNat (Oaep.pad k.toPublic.size seed content) < k.modulus :=
      Oaep.toNat_pad_lt hseed hsize'
    have happly : k.toPublic.apply (toNat (Oaep.pad k.toPublic.size seed content)) <
        256 ^ k.toPublic.size := by
      refine Nat.lt_trans ?_ (lt_pow_byteLength k.modulus)
      rw [PublicKey.apply, powMod_eq]
      exact Nat.mod_lt _ hk.modulus_pos
    have hnumber := ofNat_toNat (Oaep.pad k.toPublic.size seed content)
    rw [Oaep.length_pad hseed hsize'] at hnumber
    rw [Oaep.unwrap?, length_ofNat, if_neg (fun h ↦ h rfl), toNat_ofNat_of_lt happly,
      hk.undo?_apply hp hq hlt, Option.bind_eq_bind, Option.bind_some, hnumber]
    exact Oaep.unpad?_pad hseed hsize'

end SignOn.Crypto.Rsa
