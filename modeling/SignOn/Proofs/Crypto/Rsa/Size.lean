import SignOn.Proofs.Crypto.Rsa.Signature

/-!
# The sizes of keys that sign

A signature is only made with factors of 1024, 1536 or 2048 bits each. The modulus of such a key has
twice as many bits or one less, so the checks that are made of a sound key come down to its factors
and its exponents.
-/

namespace SignOn.Crypto

theorem lt_bitLength_iff {n k : Nat} : k < bitLength n ↔ 2 ^ k ≤ n := by
  rw [← Nat.not_le, bitLength_le_iff, Nat.not_lt]

/-- A product has as many bits as its factors together, or one less. -/
theorem bitLength_mul {m n : Nat} (hm : 0 < bitLength m) (hn : 0 < bitLength n) :
    bitLength (m * n) = bitLength m + bitLength n ∨
      bitLength (m * n) + 1 = bitLength m + bitLength n := by
  have hlt : m * n < 2 ^ (bitLength m + bitLength n) := by
    rw [pow_add]
    exact Nat.mul_lt_mul'' (bitLength_le_iff.1 (le_refl _)) (bitLength_le_iff.1 (le_refl _))
  have hle : 2 ^ (bitLength m - 1 + (bitLength n - 1)) ≤ m * n := by
    rw [pow_add]
    exact Nat.mul_le_mul (lt_bitLength_iff.1 (Nat.sub_one_lt_of_lt hm))
      (lt_bitLength_iff.1 (Nat.sub_one_lt_of_lt hn))
  have hupper := bitLength_le_iff.2 hlt
  have hlower := lt_bitLength_iff.2 hle
  omega

namespace Rsa.PrivateKey

/-- Both factors have one of the lengths that are signed with, the public exponent is not too small,
and the private one is longer than a factor and below the modulus. -/
structure FitToSign (k : PrivateKey) : Prop where
  length_eq : bitLength k.factor2 = bitLength k.factor1
  length_mem : bitLength k.factor1 = 1024 ∨ bitLength k.factor1 = 1536 ∨
    bitLength k.factor1 = 2048
  exponent : 65537 ≤ k.exponent
  lt_length_secret : bitLength k.factor1 < bitLength k.secret
  secret_lt : k.secret < k.modulus

theorem checkFactor_eq_ok_iff {half p : Nat} {u : Unit} :
    checkFactor half p = .ok u ↔
      shortBytes < byteLength p ∧ bitLength p = half ∧ half % 512 = 0 := by
  simp only [checkFactor, Outcome.ite_error_eq_ok_iff, Nat.not_le, ne_eq, Decidable.not_not,
    and_true]

/-- A sound key passes the checks exactly if it is fit to sign. -/
theorem Sound.checkSigning_eq_ok_iff {k : PrivateKey} (hk : k.Sound) :
    k.checkSigning = .ok () ↔ k.FitToSign := by
  have hodd : k.modulus % 2 = 1 := (PublicKey.check_eq_ok hk.check).1
  have hmax : PublicKey.maxBits = 4096 := rfl
  have hshort : shortBytes = 24 := rfl
  have hbytes (n : Nat) : byteLength n = (bitLength n + 7) / 8 := rfl
  simp only [checkSigning, Outcome.error_bind, Outcome.ite_error_eq_ok_iff,
    Outcome.bind_eq_ok_iff, checkFactor_eq_ok_iff, hmax, hshort, hbytes, not_or, Nat.not_le,
    Nat.not_lt]
  constructor
  · rintro ⟨-, -, hlarge, hsmall, hexponent, _, ⟨-, hfactor1, hhalf⟩, _, ⟨-, hfactor2, -⟩,
      ⟨hsecret, hlt⟩, -⟩
    exact ⟨by omega, by omega, hexponent, by omega, hlt⟩
  · rintro ⟨hlength, hmem, hexponent, hsecret, hlt⟩
    have hmodulus := bitLength_mul (m := k.factor1) (n := k.factor2) (by omega) (by omega)
    rw [hk.factors] at hmodulus
    refine ⟨by omega, by omega, by omega, by omega, hexponent, (), ⟨by omega, by omega, by omega⟩,
      (), ⟨by omega, by omega, by omega⟩, ⟨by omega, hlt⟩, rfl⟩

end Rsa.PrivateKey

end SignOn.Crypto
