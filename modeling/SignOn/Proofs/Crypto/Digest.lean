import SignOn.Crypto.Rsa.Oaep

/-! # The lengths of digests, codes and masks -/

namespace SignOn.Crypto

theorem Sha2.Words.length_hash (p : Words) (start : State p.width) (message : Bytes) :
    (p.hash start message).length = 8 * p.wordBytes := by
  simp only [hash, State.words, List.flatMap_cons, List.flatMap_nil, List.length_append,
    List.length_nil, length_ofNat]
  omega

namespace Hash

@[simp] theorem length_digest (h : Hash) (message : Bytes) :
    (h.digest message).length = h.length := by
  cases h with
  | sha256 => exact Sha2.Words.length_hash _ _ _
  | sha384 =>
    have hlength : (Sha2.words64.hash Sha2.start384 message).length = 64 :=
      Sha2.Words.length_hash _ _ _
    rw [digest, List.length_take, hlength]
    rfl
  | sha512 => exact Sha2.Words.length_hash _ _ _

theorem length_pos (h : Hash) : 0 < h.length := by
  cases h <;> decide

end Hash

namespace Rsa

theorem length_maskBlocks (h : Hash) (seed : Bytes) (first k : Nat) :
    (maskBlocks h seed first k).length = k * h.length := by
  induction k generalizing first with
  | zero => rw [Nat.zero_mul]; rfl
  | succ k ih =>
    rw [maskBlocks, List.length_append, Hash.length_digest, ih, Nat.succ_mul, Nat.add_comm]

@[simp] theorem length_mask (h : Hash) (seed : Bytes) (len : Nat) :
    (mask h seed len).length = len := by
  have hpos := h.length_pos
  have hcover : len ≤ (len + h.length - 1) / h.length * h.length := by
    have hdiv := Nat.div_add_mod (len + h.length - 1) h.length
    have hmod := Nat.mod_lt (len + h.length - 1) hpos
    rw [Nat.mul_comm] at hdiv
    omega
  rw [mask, List.length_take, length_maskBlocks, Nat.min_eq_left hcover]

end Rsa

end SignOn.Crypto
