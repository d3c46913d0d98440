import Mathlib.FieldTheory.Finite.Basic
import Mathlib.GroupTheory.OrderOfElement
import SignOn.Proofs.Crypto.Rsa.Signature

/-!
# Primes that are one more than a multiple of a high power of two

For such numbers a power that is minus one shows that they are prime, and the power is found by
squaring again and again. So a key of the size that is used can be written down.
-/

namespace SignOn.Crypto.Rsa

/-- Squares a number so many times, modulo `p`. -/
def squareMod (p : Nat) : Nat → Nat → Nat
  | 0, x => x
  | n + 1, x => squareMod p n (x * x % p)

theorem squareMod_modEq (p n x : Nat) : squareMod p n x ≡ x ^ 2 ^ n [MOD p] := by
  induction n generalizing x with
  | zero =>
    rw [pow_zero, pow_one]
    rfl
  | succ n ih =>
    have hstep : x * x % p ≡ x * x [MOD p] := Nat.mod_modEq _ p
    rw [squareMod, pow_succ', pow_mul, sq]
    exact (ih _).trans (hstep.pow _)

/-- If squaring `m` times leads to minus one modulo a prime above two, then the order of `x` is the
next power of two. -/
theorem two_pow_dvd_of_pow_eq_neg_one {q m : Nat} [Fact q.Prime] (hq : q ≠ 2) {x : ZMod q}
    (h : x ^ 2 ^ m = -1) : 2 ^ (m + 1) ∣ q - 1 := by
  have hprime : q.Prime := Fact.out
  have hne : x ^ 2 ^ m ≠ 1 := by
    have : Fact (2 < q) := ⟨Nat.lt_of_le_of_ne hprime.two_le (Ne.symm hq)⟩
    rw [h]
    exact ZMod.neg_one_ne_one
  have hone : x ^ 2 ^ (m + 1) = 1 := by
    rw [pow_succ, pow_mul, h, neg_one_sq]
  have hnonzero : x ≠ 0 := by
    rintro rfl
    rw [zero_pow (by positivity)] at hone
    exact zero_ne_one hone
  rw [← orderOf_eq_prime_pow hne hone]
  exact ZMod.orderOf_dvd_card_sub_one hnonzero

/-- What is found by squaring holds modulo every factor. -/
theorem pow_eq_neg_one_of_squareMod {p q k m a : Nat} (hdvd : q ∣ p)
    (h : squareMod p m (a ^ k % p) + 1 = p) : ((a ^ k : Nat) : ZMod q) ^ 2 ^ m = -1 := by
  have hmod : (a ^ k) ^ 2 ^ m ≡ squareMod p m (a ^ k % p) [MOD p] :=
    ((Nat.mod_modEq (a ^ k) p).symm.pow _).trans (squareMod_modEq p m _).symm
  have hcast := (ZMod.natCast_eq_natCast_iff _ _ _).2 (hmod.of_dvd hdvd)
  have hzero : ((squareMod p m (a ^ k % p) + 1 : Nat) : ZMod q) = 0 := by
    rw [h]
    exact (ZMod.natCast_eq_zero_iff _ _).2 hdvd
  rw [Nat.cast_add, Nat.cast_one] at hzero
  rw [Nat.cast_pow] at hcast
  rw [hcast]
  exact eq_neg_of_add_eq_zero_left hzero

/-- Every prime factor of `p` is one more than a multiple of the power of two, so it is too large
to have a cofactor. -/
theorem prime_of_squareMod {k m a : Nat} (hk : k ≤ 2 ^ (m + 1))
    (h : squareMod (k * 2 ^ (m + 1) + 1) m (a ^ k % (k * 2 ^ (m + 1) + 1)) = k * 2 ^ (m + 1))
    (hpos : 0 < k) : (k * 2 ^ (m + 1) + 1).Prime := by
  generalize hp : k * 2 ^ (m + 1) + 1 = p at h ⊢
  have hp1 : p ≠ 1 := by
    have : 0 < k * 2 ^ (m + 1) := by positivity
    omega
  by_contra hcomposite
  have hfactor : p.minFac.Prime := Nat.minFac_prime hp1
  have : Fact p.minFac.Prime := ⟨hfactor⟩
  have hdvd : p.minFac ∣ p := Nat.minFac_dvd p
  have hodd : p.minFac ≠ 2 := by
    intro h2
    rw [h2, ← hp, pow_succ, ← mul_assoc] at hdvd
    omega
  have hlarge : 2 ^ (m + 1) ∣ p.minFac - 1 :=
    two_pow_dvd_of_pow_eq_neg_one hodd (pow_eq_neg_one_of_squareMod hdvd (by rw [h, hp]))
  have htwo := hfactor.two_le
  have hge : 2 ^ (m + 1) ≤ p.minFac - 1 := Nat.le_of_dvd (by omega) hlarge
  have hsquare : p.minFac ^ 2 ≤ p := Nat.minFac_sq_le_self (by omega) hcomposite
  have hbig : (2 ^ (m + 1) + 1) ^ 2 ≤ p.minFac ^ 2 := Nat.pow_le_pow_left (by omega) 2
  have hproduct : k * 2 ^ (m + 1) ≤ 2 ^ (m + 1) * 2 ^ (m + 1) := Nat.mul_le_mul_right _ hk
  nlinarith

/-- A prime of 1024 bits. -/
def prime1 : Nat := 3931 * 2 ^ (1011 + 1) + 1

/-- Another prime of 1024 bits; the product of both has 2048. -/
def prime2 : Nat := 7547 * 2 ^ (1010 + 1) + 1

theorem prime_prime1 : prime1.Prime := by
  have hsquares : squareMod (3931 * 2 ^ (1011 + 1) + 1) 1011
      (3 ^ 3931 % (3931 * 2 ^ (1011 + 1) + 1)) = 3931 * 2 ^ (1011 + 1) := by decide +kernel
  exact prime_of_squareMod (by decide +kernel) hsquares (by decide)

theorem prime_prime2 : prime2.Prime := by
  have hsquares : squareMod (7547 * 2 ^ (1010 + 1) + 1) 1010
      (3 ^ 7547 % (7547 * 2 ^ (1010 + 1) + 1)) = 7547 * 2 ^ (1010 + 1) := by decide +kernel
  exact prime_of_squareMod (by decide +kernel) hsquares (by decide)

namespace PrivateKey

/-- Different primes always have a coefficient, so only their relations to the modulus and to the
exponents are to be checked. -/
theorem sound_of_primes {k : PrivateKey} (hp : k.factor1.Prime) (hq : k.factor2.Prime)
    (hne : k.factor1 ≠ k.factor2) (hcheck : k.toPublic.check = .ok ())
    (hfactors : k.factor1 * k.factor2 = k.modulus)
    (hinverse1 : k.secret * k.exponent % (k.factor1 - 1) = 1)
    (hinverse2 : k.secret * k.exponent % (k.factor2 - 1) = 1)
    (hcoefficient : k.coefficient = (inverse? k.factor2 k.factor1).getD 0) : k.Sound := by
  obtain ⟨c, hc⟩ := inverse?_of_coprime ((Nat.coprime_primes hq hp).2 hne.symm)
  exact {
    check := hcheck
    one_lt_factor1 := hp.one_lt
    one_lt_factor2 := hq.one_lt
    factors := hfactors
    inverse1 := hinverse1
    inverse2 := hinverse2
    coefficient := by rw [hcoefficient, hc, Option.getD_some] }

/-! ## A key of 2048 bits -/

/-- The key with these primes. Its private exponent is the inverse of the public one modulo the
least common multiple of the numbers before the primes. -/
def sample : PrivateKey where
  modulus := prime1 * prime2
  exponent := 65537
  secret := (33711 * (3931 * 7547 * 2 ^ (1011 + 1)) + 1) / 65537
  factor1 := prime1
  factor2 := prime2
  coefficient := (inverse? prime2 prime1).getD 0

theorem sound_sample : sample.Sound := by
  have hne : prime1 ≠ prime2 := by decide +kernel
  have hcheck : sample.toPublic.check = .ok () := by decide +kernel
  have hinverse1 : sample.secret * sample.exponent % (sample.factor1 - 1) = 1 := by decide +kernel
  have hinverse2 : sample.secret * sample.exponent % (sample.factor2 - 1) = 1 := by decide +kernel
  exact sound_of_primes prime_prime1 prime_prime2 hne hcheck (by simp only [sample]) hinverse1
    hinverse2 (by simp only [sample])

theorem strong_sample : sample.Strong := by
  refine ⟨sound_sample, prime_prime1, prime_prime2, ?_⟩
  decide +kernel

/-! ## A key of 4103 bits -/

/-- A key that is larger than public keys may be. -/
def large : PrivateKey where
  modulus := (2845 * 2 ^ (2039 + 1) + 1) * (4187 * 2 ^ (2038 + 1) + 1)
  exponent := 65537
  secret := (17486 * (2845 * 4187 * 2 ^ (2039 + 1)) + 1) / 65537
  factor1 := 2845 * 2 ^ (2039 + 1) + 1
  factor2 := 4187 * 2 ^ (2038 + 1) + 1
  coefficient :=
    (inverse? (4187 * 2 ^ (2038 + 1) + 1) (2845 * 2 ^ (2039 + 1) + 1)).getD 0

theorem prime_factor1_large : large.factor1.Prime := by
  have hsquares : squareMod (2845 * 2 ^ (2039 + 1) + 1) 2039
      (3 ^ 2845 % (2845 * 2 ^ (2039 + 1) + 1)) = 2845 * 2 ^ (2039 + 1) := by decide +kernel
  exact prime_of_squareMod (by decide +kernel) hsquares (by decide)

theorem prime_factor2_large : large.factor2.Prime := by
  have hsquares : squareMod (4187 * 2 ^ (2038 + 1) + 1) 2038
      (3 ^ 4187 % (4187 * 2 ^ (2038 + 1) + 1)) = 4187 * 2 ^ (2038 + 1) := by decide +kernel
  exact prime_of_squareMod (by decide +kernel) hsquares (by decide)

theorem sound_large : large.Sound := by
  have hne : large.factor1 ≠ large.factor2 := by decide +kernel
  have hcheck : large.toPublic.check = .ok () := by decide +kernel
  have hinverse1 : large.secret * large.exponent % (large.factor1 - 1) = 1 := by decide +kernel
  have hinverse2 : large.secret * large.exponent % (large.factor2 - 1) = 1 := by decide +kernel
  exact sound_of_primes prime_factor1_large prime_factor2_large hne hcheck
    (by simp only [large]) hinverse1 hinverse2 (by simp only [large])

theorem maxBits_lt_bitLength_large : PublicKey.maxBits < bitLength large.modulus := by
  decide +kernel

end PrivateKey

end SignOn.Crypto.Rsa
