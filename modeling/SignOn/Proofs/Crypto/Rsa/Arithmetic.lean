import Mathlib.FieldTheory.Finite.Basic
import SignOn.Crypto.Rsa.Arithmetic

/-! # Powers, inverses and residues

What the arithmetic of RSA computes, and why raising to inverse exponents gives a number back.
-/

namespace SignOn.Crypto.Rsa

/-- Squaring and multiplying computes the power. -/
theorem powMod_eq (b e n : Nat) : powMod b e n = b ^ e % n := by
  fun_induction powMod b e n with
  | case1 b => rw [pow_zero]
  | case2 b e he half hodd ih =>
    have hsplit : e = 2 * (e / 2) + 1 := by omega
    rw [show half = (b * b % n) ^ (e / 2) % n from ih, ← Nat.pow_mod, Nat.mul_mod_mod, ← sq,
      ← pow_mul, ← pow_succ', ← hsplit]
  | case3 b e he half heven ih =>
    have hsplit : e = 2 * (e / 2) := by omega
    rw [show half = (b * b % n) ^ (e / 2) % n from ih, ← Nat.pow_mod, ← sq, ← pow_mul, ← hsplit]

/-- The combination that the extended algorithm finds. -/
theorem bezout_eq (a b : Nat) :
    ((bezout a b).1 : ℤ) = a * (bezout a b).2.1 + b * (bezout a b).2.2 := by
  fun_induction bezout a b with
  | case1 a => simp
  | case2 a b hb g x y heq ih =>
    rw [heq] at ih
    have hdiv : (a : ℤ) = b * (a / b : Nat) + (a % b : Nat) := by
      exact_mod_cast (Nat.div_add_mod a b).symm
    have hg : (g : ℤ) = b * x + (a % b : Nat) * y := ih
    show (g : ℤ) = a * y + b * (x - (a / b : Nat) * y)
    rw [hg, hdiv]
    push_cast
    ring

theorem bezout_fst (a b : Nat) : (bezout a b).1 = Nat.gcd a b := by
  fun_induction bezout a b with
  | case1 a => simp
  | case2 a b hb g x y heq ih =>
    rw [heq] at ih
    show g = Nat.gcd a b
    rw [show g = Nat.gcd b (a % b) from ih, Nat.gcd_comm b, ← Nat.gcd_rec, Nat.gcd_comm]

/-- An inverse that is found is one, so the numbers are coprime. -/
theorem inverse?_eq_some {a m c : Nat} (hm : 0 < m) (h : inverse? a m = some c) :
    Nat.Coprime a m ∧ a * c ≡ 1 [MOD m] := by
  have hcombination := bezout_eq a m
  have hgcd := bezout_fst a m
  simp only [inverse?] at h
  split at h
  · next hg =>
    obtain rfl := Option.some.inj h
    rw [hg] at hcombination hgcd
    refine ⟨hgcd.symm, ?_⟩
    have hmod : (0 : ℤ) ≤ (bezout a m).2.1.emod m := Int.emod_nonneg _ (by omega)
    rw [← Int.natCast_modEq_iff, Nat.cast_mul, Int.toNat_of_nonneg hmod]
    have hx : (bezout a m).2.1.emod m ≡ (bezout a m).2.1 [ZMOD m] := Int.mod_modEq _ _
    refine (hx.mul_left a).trans ?_
    rw [hcombination]
    exact (Int.modEq_add_fac_self (a := a * (bezout a m).2.1) (n := (m : ℤ))).symm
  · cases h

/-- If there is an inverse, one is found. -/
theorem inverse?_of_coprime {a m : Nat} (h : Nat.Coprime a m) : ∃ c, inverse? a m = some c := by
  have hgcd : (bezout a m).1 = 1 := (bezout_fst a m).trans h
  simp only [inverse?, hgcd, if_true]
  exact ⟨_, rfl⟩

/-! ## Inverse exponents -/

section

variable {p : Nat} (hp : p.Prime)

include hp

/-- Fermat's little theorem, also for multiples of the prime. -/
theorem pow_modEq_self {k : Nat} (hk : k % (p - 1) = 1) (a : Nat) : a ^ k ≡ a [MOD p] := by
  have : Fact p.Prime := ⟨hp⟩
  have hsplit : k = (p - 1) * (k / (p - 1)) + 1 := by
    have hdiv := Nat.div_add_mod k (p - 1)
    omega
  rw [← ZMod.natCast_eq_natCast_iff, Nat.cast_pow]
  by_cases ha : (a : ZMod p) = 0
  · rw [ha, hsplit, pow_succ, mul_zero]
  · rw [hsplit, pow_succ, pow_mul, ZMod.pow_card_sub_one_eq_one ha, one_pow, one_mul]

/-- The private operation modulo one prime factor of the modulus. -/
theorem powMod_powMod {n e d : Nat} (hpn : p ∣ n) (hed : d * e % (p - 1) = 1) (m : Nat) :
    powMod (powMod m e n) (d % (p - 1)) p = m % p := by
  have hexponent : e * (d % (p - 1)) % (p - 1) = 1 := by
    rw [Nat.mul_mod_mod, Nat.mul_comm, hed]
  rw [powMod_eq, powMod_eq]
  have hreduce : m ^ e % n ≡ m ^ e [MOD p] := (Nat.mod_modEq _ n).of_dvd hpn
  have hpower : m ^ (e * (d % (p - 1))) ≡ m [MOD p] := pow_modEq_self hp hexponent m
  rw [pow_mul] at hpower
  exact (hreduce.pow (d % (p - 1))).trans hpower

end

/-- A number is put together again from its residues modulo two coprime factors. -/
theorem garner {p q c m : Nat} (hp : 0 < p) (hq : 0 < q) (hpq : Nat.Coprime q p)
    (hc : q * c ≡ 1 [MOD p]) (hm : m < p * q) :
    m % q + ((((m % p : Nat) : ℤ) - (m % q : Nat)).emod p).toNat * c % p * q = m := by
  set h := ((((m % p : Nat) : ℤ) - (m % q : Nat)).emod p).toNat with hh
  have hmod : (0 : ℤ) ≤ (((m % p : Nat) : ℤ) - (m % q : Nat)).emod p :=
    Int.emod_nonneg _ (by omega)
  have hlt : m % q + h * c % p * q < p * q := by
    have hq' : m % q < q := Nat.mod_lt _ hq
    have hp' : h * c % p + 1 ≤ p := Nat.mod_lt _ hp
    calc m % q + h * c % p * q < q + h * c % p * q := by omega
      _ = (h * c % p + 1) * q := by ring
      _ ≤ p * q := Nat.mul_le_mul_right q hp'
  have hmodq : m % q + h * c % p * q ≡ m [MOD q] := by
    have hzero : h * c % p * q ≡ 0 [MOD q] := (Nat.modEq_zero_iff_dvd).2 (Dvd.intro_left _ rfl)
    exact (Nat.mod_modEq m q).add hzero
  have hmodp : m % q + h * c % p * q ≡ m [MOD p] := by
    rw [← Int.natCast_modEq_iff]
    have hdiff : (h : ℤ) ≡ m - (m % q : Nat) [ZMOD p] := by
      rw [hh, Int.toNat_of_nonneg hmod]
      refine (Int.mod_modEq _ _).trans (Int.ModEq.sub_right _ ?_)
      exact_mod_cast Int.mod_modEq (m : ℤ) p
    have hinverse : ((q : ℤ) * c) ≡ 1 [ZMOD p] := by exact_mod_cast Int.natCast_modEq_iff.2 hc
    have hstep : ((h * c % p * q : Nat) : ℤ) ≡ m - (m % q : Nat) [ZMOD p] := by
      have hreduce : ((h * c % p : Nat) : ℤ) ≡ h * c [ZMOD p] := by
        exact_mod_cast Int.mod_modEq (h * c : ℤ) p
      calc ((h * c % p * q : Nat) : ℤ) = ((h * c % p : Nat) : ℤ) * q := by push_cast; ring
        _ ≡ h * c * q [ZMOD p] := hreduce.mul_right _
        _ = h * (q * c) := by ring
        _ ≡ h * 1 [ZMOD p] := hinverse.mul_left _
        _ = h := mul_one _
        _ ≡ m - (m % q : Nat) [ZMOD p] := hdiff
    have hsum := hstep.add_left ((m % q : Nat) : ℤ)
    rw [add_sub_cancel] at hsum
    exact_mod_cast hsum
  have hcongruent := (Nat.modEq_and_modEq_iff_modEq_mul hpq.symm).1 ⟨hmodp, hmodq⟩
  exact Nat.ModEq.eq_of_lt_of_lt hcongruent hlt hm

end SignOn.Crypto.Rsa
