import SignOn.Proofs.Crypto.Rsa.Key

/-!
# The private operation as a power

The private operation goes by way of the residues modulo both factors, with an exponent of its own
for each. If the factors are prime that comes to the same as raising to the private exponent modulo
the modulus, also for multiples of a factor. So raising to one exponent and then to the other gives
every number below the modulus back.
-/

namespace SignOn.Crypto.Rsa

/-- Fermat's little theorem for an exponent that is reduced, also for multiples of the prime. -/
theorem pow_mod_pred_modEq {p d : Nat} (hp : p.Prime) (hd : d % (p - 1) ≠ 0) (c : Nat) :
    c ^ (d % (p - 1)) ≡ c ^ d [MOD p] := by
  have : Fact p.Prime := ⟨hp⟩
  rw [← ZMod.natCast_eq_natCast_iff, Nat.cast_pow, Nat.cast_pow]
  by_cases hc : (c : ZMod p) = 0
  · have hd' : d ≠ 0 := by
      rintro rfl
      exact hd (Nat.zero_mod _)
    rw [hc, zero_pow hd, zero_pow hd']
  · calc (c : ZMod p) ^ (d % (p - 1))
        = ((c : ZMod p) ^ (p - 1)) ^ (d / (p - 1)) * (c : ZMod p) ^ (d % (p - 1)) := by
          rw [ZMod.pow_card_sub_one_eq_one hc, one_pow, one_mul]
      _ = (c : ZMod p) ^ d := by rw [← pow_mul, ← pow_add, Nat.div_add_mod]

/-- A factor of a product that leaves one behind does not leave zero behind. -/
theorem mod_ne_zero_of_mul_mod {d e m : Nat} (h : d * e % m = 1) : d % m ≠ 0 := by
  intro hzero
  rw [Nat.mul_mod, hzero, Nat.zero_mul, Nat.zero_mod] at h
  cases h

theorem modEq_one_of_mul_mod {d e m : Nat} (h : d * e % m = 1) : e * d ≡ 1 [MOD m] := by
  have hm : m ≠ 1 := by
    rintro rfl
    rw [Nat.mod_one] at h
    cases h
  rw [Nat.ModEq, Nat.mul_comm, h, Nat.one_mod_eq_one.2 hm]

namespace PrivateKey

variable {k : PrivateKey} (hk : k.Sound)

include hk

/-- The factors have to be coprime, or there would be no coefficient. -/
theorem Sound.factor1_ne_factor2 : k.factor1 ≠ k.factor2 := by
  obtain ⟨hcoprime, -⟩ := inverse?_eq_some (Nat.lt_of_succ_lt hk.one_lt_factor1) hk.coefficient
  have hlt := hk.one_lt_factor1
  intro heq
  rw [← heq, Nat.coprime_self] at hcoprime
  omega

/-- The private operation is raising to the private exponent. -/
theorem Sound.apply_eq (hp : k.factor1.Prime) (hq : k.factor2.Prime) (c : Nat) :
    k.apply c = c ^ k.secret % k.modulus := by
  obtain ⟨hcoprime, hinverse⟩ := inverse?_eq_some hp.pos hk.coefficient
  have hlt : c ^ k.secret % k.modulus < k.factor1 * k.factor2 := by
    rw [hk.factors]
    exact Nat.mod_lt _ hk.modulus_pos
  have hresidue {p : Nat} (hprime : p.Prime) (hdvd : p ∣ k.modulus)
      (hinv : k.secret * k.exponent % (p - 1) = 1) :
      powMod c (k.secret % (p - 1)) p = c ^ k.secret % k.modulus % p := by
    rw [powMod_eq, Nat.mod_mod_of_dvd _ hdvd]
    exact pow_mod_pred_modEq hprime (mod_ne_zero_of_mul_mod hinv) c
  have h1 := hresidue hp (hk.factors ▸ Dvd.intro _ rfl) hk.inverse1
  have h2 := hresidue hq (hk.factors ▸ Dvd.intro_left _ rfl) hk.inverse2
  simp only [apply, h1, h2]
  exact garner hp.pos hq.pos hcoprime hinverse hlt

/-- Raising to the public exponent and then to the private one gives a number back. -/
theorem Sound.pow_pow (hp : k.factor1.Prime) (hq : k.factor2.Prime) {m : Nat}
    (hm : m < k.modulus) : (m ^ k.exponent % k.modulus) ^ k.secret % k.modulus = m := by
  have hpublic : k.toPublic.apply m = m ^ k.exponent % k.modulus := powMod_eq _ _ _
  rw [← hk.apply_eq hp hq, ← hpublic]
  exact hk.apply_toPublic_apply hp hq hm

end PrivateKey

end SignOn.Crypto.Rsa
