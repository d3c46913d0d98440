import Mathlib.Algebra.Order.Group.MinMax
import SignOn.Proofs.Crypto.Rsa.Checked
import SignOn.Proofs.Crypto.Rsa.Exponents
import SignOn.Proofs.Crypto.Rsa.Prime

/-!
# The factors that are recovered

The factors of a modulus are found from their product and their sum. To find the sum, a multiple of
the product of both predecessors is divided by the modulus, and the quotient shows how often that
product was taken, as long as it was not too often. So the factors of a key are found again if the
public exponent is not too small and the multiple is not too large, and else there is an error.
-/

namespace SignOn.Crypto.Rsa

open Outcome

/-! ## Two numbers from their sum and their product -/

theorem sqrt_eq (n : Nat) : sqrt n = n.sqrt := by
  fun_induction sqrt n with
  | case1 => exact Nat.sqrt_zero.symm
  | case2 n hn r hle ih =>
    have hhigh : n / 4 < (sqrt (n / 4) + 1) * (sqrt (n / 4) + 1) := ih ▸ Nat.lt_succ_sqrt _
    refine Nat.eq_sqrt.2 ⟨hle, ?_⟩
    have hexpand : (r + 1 + 1) * (r + 1 + 1) = 4 * ((sqrt (n / 4) + 1) * (sqrt (n / 4) + 1)) := by
      ring
    omega
  | case3 n hn r hlt ih =>
    have hlow : sqrt (n / 4) * sqrt (n / 4) ≤ n / 4 := ih ▸ Nat.sqrt_le _
    refine Nat.eq_sqrt.2 ⟨?_, Nat.lt_of_not_le hlt⟩
    have hexpand : r * r = 4 * (sqrt (n / 4) * sqrt (n / 4)) := by ring
    omega

/-- The larger number is half of the sum and the difference, the smaller one half of what remains of
the sum, and the square of the difference is known. -/
theorem halves_eq_iff {b n x z : Nat} :
    (4 * n < b * b ∧ sqrt (b * b - 4 * n) * sqrt (b * b - 4 * n) = b * b - 4 * n ∧
        (b + sqrt (b * b - 4 * n)) / 2 = x ∧ (b - sqrt (b * b - 4 * n)) / 2 = z) ↔
      z < x ∧ x + z = b ∧ x * z = n := by
  constructor
  · rintro ⟨hlt, hsquare, rfl, rfl⟩
    generalize sqrt (b * b - 4 * n) = y at hsquare ⊢
    have hle : y ≤ b := Nat.mul_self_le_mul_self_iff.1 (by omega)
    have hpos : y ≠ 0 := by
      rintro rfl
      omega
    have hparity : b % 2 = y % 2 := by
      have hsquares : b * b % 2 = y * y % 2 := by omega
      rw [Nat.mul_mod, Nat.mul_mod y] at hsquares
      rcases Nat.mod_two_eq_zero_or_one b with hb | hb <;>
        rcases Nat.mod_two_eq_zero_or_one y with hy | hy <;> simp [hb, hy] at hsquares ⊢
    obtain ⟨z, rfl⟩ : ∃ z, b = y + 2 * z := ⟨(b - y) / 2, by omega⟩
    have hx : (y + 2 * z + y) / 2 = y + z := by omega
    have hz : (y + 2 * z - y) / 2 = z := by omega
    rw [hx, hz]
    refine ⟨by omega, by omega, ?_⟩
    have hexpand : (y + 2 * z) * (y + 2 * z) = y * y + 4 * ((y + z) * z) := by ring
    omega
  · rintro ⟨hlt, rfl, rfl⟩
    obtain ⟨y, rfl⟩ := Nat.exists_eq_add_of_lt hlt
    have hexpand : (z + y + 1 + z) * (z + y + 1 + z) =
        (y + 1) * (y + 1) + 4 * ((z + y + 1) * z) := by ring
    have hpos : 0 < (y + 1) * (y + 1) := by positivity
    rw [hexpand, Nat.add_sub_cancel, sqrt_eq, Nat.sqrt_eq]
    exact ⟨by omega, rfl, by omega, by omega⟩

/-! ## The sum of the factors

If a number falls short of `k` times the modulus by `k` times `t`, then dividing it by the modulus
yields `k`, and so `t`. -/

/-- Whoever divides what is left to the modulus by the next quotient finds `t`. -/
theorem sub_mod_eq_iff {a n t : Nat} (hn : 0 < n) :
    n - a % n = (a / n + 1) * t ↔ 0 < t ∧ ∃ k, 0 < k ∧ a + k * t = k * n ∧ k * t ≤ n := by
  have hlt : a % n < n := Nat.mod_lt a hn
  constructor
  · intro h
    have hdiv : n * (a / n) + a % n = a := Nat.div_add_mod a n
    refine ⟨Nat.pos_of_ne_zero ?_, a / n + 1, Nat.succ_pos _, ?_, by omega⟩
    · rintro rfl
      rw [Nat.mul_zero] at h
      omega
    · rw [← h, Nat.add_mul, Nat.one_mul, Nat.mul_comm (a / n)]
      omega
  · rintro ⟨ht, k, hk, heq, hle⟩
    obtain ⟨j, rfl⟩ : ∃ j, k = j + 1 := ⟨k - 1, by omega⟩
    have hpos : 0 < (j + 1) * t := by positivity
    rw [Nat.add_mul j 1 n, Nat.one_mul, Nat.mul_comm j n] at heq
    obtain ⟨hdiv, hmod⟩ : a / n = j ∧ a % n = n - (j + 1) * t :=
      (Nat.div_mod_unique hn).2 ⟨by omega, by omega⟩
    rw [hdiv, hmod]
    exact Nat.sub_sub_self hle

theorem mul_eq_pred_mul_pred_add {p q : Nat} (hp : 0 < p) (hq : 0 < q) :
    p * q = (p - 1) * (q - 1) + (p + q - 1) := by
  obtain ⟨p', rfl⟩ : ∃ p', p = p' + 1 := ⟨p - 1, by omega⟩
  obtain ⟨q', rfl⟩ : ∃ q', q = q' + 1 := ⟨q - 1, by omega⟩
  rw [Nat.add_sub_cancel, Nat.add_sub_cancel, ← Nat.add_assoc, Nat.add_sub_cancel]
  ring

theorem dvd_pred_of_mod_eq_one {m c : Nat} (h : c % m = 1) : m ∣ c - 1 := by
  have hdvd : m ∣ c - c % m := Nat.dvd_sub_mod c
  rwa [h] at hdvd

/-- A multiple of the product of both predecessors, computed without the factors. -/
theorem pred_mul_pred_dvd {p q c : Nat} (hp : 0 < p) (hq : 0 < q) (h1 : p - 1 ∣ c)
    (h2 : q - 1 ∣ c) : (p - 1) * (q - 1) ∣ c * Nat.gcd (p * q - 1) c := by
  have hgcd : Nat.gcd (p - 1) (q - 1) ∣ p * q - 1 := by
    have hsplit : p * q - 1 = (p - 1) * (q - 1) + (p - 1) + (q - 1) := by
      have hmul := mul_eq_pred_mul_pred_add hp hq
      omega
    rw [hsplit]
    have hleft := Nat.gcd_dvd_left (p - 1) (q - 1)
    exact dvd_add (dvd_add (hleft.mul_right _) hleft) (Nat.gcd_dvd_right _ _)
  rw [← Nat.gcd_mul_lcm, Nat.mul_comm]
  exact Nat.mul_dvd_mul (Nat.lcm_dvd h1 h2) (Nat.dvd_gcd hgcd ((Nat.gcd_dvd_left _ _).trans h1))

/-- What `m` is taken so often for `a` is small enough exactly if `a` is. -/
theorem exists_multiple_iff {a m t : Nat} (ha : 0 < a) (hm : 0 < m) (hdvd : m ∣ a) :
    (∃ k, 0 < k ∧ a + k * t = k * (m + t) ∧ k * t ≤ m + t) ↔ a * t ≤ (m + t) * m := by
  obtain ⟨k, rfl⟩ := hdvd
  have hbound : m * k * t ≤ (m + t) * m ↔ k * t ≤ m + t := by
    rw [Nat.mul_assoc, Nat.mul_comm _ m]
    exact Nat.mul_le_mul_left_iff hm
  rw [hbound]
  constructor
  · rintro ⟨j, -, heq, hle⟩
    rw [Nat.mul_add, Nat.add_right_cancel_iff, Nat.mul_comm] at heq
    rwa [Nat.eq_of_mul_eq_mul_right hm heq]
  · intro hle
    exact ⟨k, Nat.pos_of_mul_pos_left ha, by ring, hle⟩

theorem eq_of_mul_eq_of_dvd {p q x z : Nat} (hp : p.Prime) (hq : q.Prime) (hz : z ≠ 1)
    (h : x * z = p * q) (hdvd : p ∣ x) : x = p ∧ z = q := by
  obtain ⟨c, rfl⟩ := hdvd
  rw [Nat.mul_assoc] at h
  have hrest : c * z = q := Nat.eq_of_mul_eq_mul_left hp.pos h
  obtain rfl : z = q := ((Nat.dvd_prime hq).1 (Dvd.intro_left c hrest)).resolve_left hz
  obtain rfl : c = 1 := Nat.eq_of_mul_eq_mul_right hq.pos (hrest.trans (Nat.one_mul z).symm)
  exact ⟨Nat.mul_one p, rfl⟩

/-- A product of two primes cannot be written in another way with both factors above one. -/
theorem eq_or_eq_of_mul_eq {p q x z : Nat} (hp : p.Prime) (hq : q.Prime) (hx : x ≠ 1) (hz : z ≠ 1)
    (h : x * z = p * q) : x = p ∧ z = q ∨ x = q ∧ z = p := by
  rcases (Nat.Prime.dvd_mul hp).1 (Dvd.intro q h.symm) with hdvd | hdvd
  · exact .inl (eq_of_mul_eq_of_dvd hp hq hz h hdvd)
  · rw [Nat.mul_comm] at h
    exact .inr (eq_of_mul_eq_of_dvd hp hq hx h hdvd).symm

namespace PrivateKey

/-- The factors that are recovered are the numbers that have the modulus as their product, and the
right multiple of the product of their predecessors. -/
theorem recover_eq_ok_iff {n e d x z : Nat} :
    recover n e d = .ok (x, z) ↔
      Nat.pow 2 16 < e ∧ e < Nat.pow 2 256 ∧ d * e ≠ 0 ∧ n ≠ 0 ∧ z < x ∧ x * z = n ∧
        ∃ k, 0 < k ∧ (d * e - 1) * Nat.gcd (n - 1) (d * e - 1) + k * (x + z - 1) = k * n ∧
          k * (x + z - 1) ≤ n := by
  simp only [recover, ite_error_eq_ok_iff, not_or, Nat.not_le, ne_eq, Decidable.not_not,
    Except.ok.injEq, Prod.mk.injEq, and_assoc, halves_eq_iff]
  generalize (d * e - 1) * Nat.gcd (n - 1) (d * e - 1) = a
  refine and_congr_right fun _ ↦ and_congr_right fun _ ↦ and_congr_right fun _ ↦
    and_congr_right fun hn ↦ ?_
  have hpos : 0 < n := Nat.pos_of_ne_zero hn
  constructor
  · rintro ⟨hdvd, hlt, hsum, hproduct⟩
    have ht : n - a % n = (a / n + 1) * (x + z - 1) := by
      rw [hsum, Nat.add_sub_cancel, Nat.mul_div_cancel' (Nat.dvd_of_mod_eq_zero hdvd)]
    exact ⟨hlt, hproduct, ((sub_mod_eq_iff hpos).1 ht).2⟩
  · rintro ⟨hlt, hproduct, hk⟩
    have hz : z ≠ 0 := by
      rintro rfl
      exact hn hproduct.symm
    have ht : n - a % n = (a / n + 1) * (x + z - 1) :=
      (sub_mod_eq_iff hpos).2 ⟨by omega, hk⟩
    rw [ht, Nat.mul_mod_right, Nat.mul_div_cancel_left _ (Nat.succ_pos _)]
    exact ⟨rfl, hlt, by omega, hproduct⟩

theorem recover_eq_error {n e d : Nat} {f : Failure} (h : recover n e d = .error f) :
    f = .rejected .invalidArguments ∨ f = .negativeDifference := by
  rw [recover] at h
  split at h
  · exact .inl (Except.error.inj h).symm
  split at h
  · exact .inr (Except.error.inj h).symm
  dsimp only at h
  split at h
  · exact .inl (Except.error.inj h).symm
  split at h
  · exact .inl (Except.error.inj h).symm
  split at h
  · exact .inl (Except.error.inj h).symm
  · cases h

/-- What is divided by the modulus to recover its factors: a multiple of the product of their
predecessors. -/
def multiple (k : PrivateKey) : Nat :=
  (k.secret * k.exponent - 1) * Nat.gcd (k.modulus - 1) (k.secret * k.exponent - 1)

/-- Whether the factors are found again: the sum of the factors, less one, has to fit the modulus as
often as the multiple contains the product of their predecessors. -/
def Recoverable (k : PrivateKey) : Prop :=
  Nat.pow 2 16 < k.exponent ∧
    k.multiple * (k.factor1 + k.factor2 - 1) ≤
      k.modulus * ((k.factor1 - 1) * (k.factor2 - 1))

instance (k : PrivateKey) : Decidable k.Recoverable :=
  inferInstanceAs (Decidable (_ ∧ _))

/-- The key with the larger factor in front. -/
def largerFirst (k : PrivateKey) : PrivateKey :=
  { k with
    factor1 := max k.factor1 k.factor2
    factor2 := min k.factor1 k.factor2
    coefficient := (inverse? (min k.factor1 k.factor2) (max k.factor1 k.factor2)).getD 0 }

theorem perm_largerFirst (k : PrivateKey) :
    [k.largerFirst.factor1, k.largerFirst.factor2].Perm [k.factor1, k.factor2] := by
  rcases Nat.le_total k.factor1 k.factor2 with hle | hle
  · rw [largerFirst, Nat.max_eq_right hle, Nat.min_eq_left hle]
    exact .swap _ _ _
  · rw [largerFirst, Nat.max_eq_left hle, Nat.min_eq_right hle]

section

variable {k : PrivateKey} (hk : k.Sound) (hp : k.factor1.Prime) (hq : k.factor2.Prime)

include hk

theorem Sound.secret_mul_exponent_ne_zero : k.secret * k.exponent ≠ 0 := by
  intro hzero
  have hinverse := hk.inverse1
  rw [hzero, Nat.zero_mod] at hinverse
  cases hinverse

theorem Sound.exponent_lt : k.exponent < Nat.pow 2 256 := by
  obtain ⟨-, -, hlt⟩ := PublicKey.check_eq_ok hk.check
  exact hlt.trans (by decide)

theorem Sound.modulus_eq : k.modulus =
    (k.factor1 - 1) * (k.factor2 - 1) + (k.factor1 + k.factor2 - 1) :=
  hk.factors.symm.trans (mul_eq_pred_mul_pred_add (Nat.lt_of_succ_lt hk.one_lt_factor1)
    (Nat.lt_of_succ_lt hk.one_lt_factor2))

theorem Sound.preds_pos : 0 < (k.factor1 - 1) * (k.factor2 - 1) :=
  Nat.mul_pos (Nat.sub_pos_of_lt hk.one_lt_factor1) (Nat.sub_pos_of_lt hk.one_lt_factor2)

theorem Sound.preds_dvd_multiple : (k.factor1 - 1) * (k.factor2 - 1) ∣ k.multiple := by
  rw [multiple, ← hk.factors]
  exact pred_mul_pred_dvd (Nat.lt_of_succ_lt hk.one_lt_factor1)
    (Nat.lt_of_succ_lt hk.one_lt_factor2) (dvd_pred_of_mod_eq_one hk.inverse1)
    (dvd_pred_of_mod_eq_one hk.inverse2)

theorem Sound.multiple_pos (he : Nat.pow 2 16 < k.exponent) : 0 < k.multiple := by
  have hsecret : k.secret ≠ 0 := left_ne_zero_of_mul hk.secret_mul_exponent_ne_zero
  have hle : k.exponent ≤ k.secret * k.exponent :=
    Nat.le_mul_of_pos_left _ (Nat.pos_of_ne_zero hsecret)
  have hone : 1 < Nat.pow 2 16 := by decide
  have hpos : 0 < k.secret * k.exponent - 1 := by omega
  exact Nat.mul_pos hpos (Nat.gcd_pos_of_pos_right _ hpos)

include hp hq

theorem Sound.largerFirst : k.largerFirst.Sound := by
  have hne := hk.factor1_ne_factor2
  rcases Nat.le_total k.factor1 k.factor2 with hle | hle
  · rw [PrivateKey.largerFirst, Nat.max_eq_right hle, Nat.min_eq_left hle]
    exact sound_of_primes hq hp hne.symm hk.check ((Nat.mul_comm _ _).trans hk.factors)
      hk.inverse2 hk.inverse1 rfl
  · rw [PrivateKey.largerFirst, Nat.max_eq_left hle, Nat.min_eq_right hle]
    exact sound_of_primes hp hq hne hk.check hk.factors hk.inverse1 hk.inverse2 rfl

/-- Of the ways to write the modulus as a product, the multiple tells the one with the factors from
the one with the modulus itself. -/
theorem Sound.eq_max_min {x z j : Nat} (hlow : Nat.pow 2 16 < k.exponent) (hlt : z < x)
    (hproduct : x * z = k.modulus) (heq : k.multiple + j * (x + z - 1) = j * k.modulus) :
    x = max k.factor1 k.factor2 ∧ z = min k.factor1 k.factor2 := by
  have hpos := hk.multiple_pos hlow
  have hz : z ≠ 1 := by
    rintro rfl
    rw [Nat.add_sub_cancel, ← hproduct, Nat.mul_one] at heq
    omega
  have hx : x ≠ 1 := by
    have hn := hk.modulus_pos
    rintro rfl
    omega
  have hfactors := eq_or_eq_of_mul_eq hp hq hx hz (hproduct.trans hk.factors.symm)
  omega

theorem Sound.recover_eq_ok_iff {x z : Nat} :
    recover k.modulus k.exponent k.secret = .ok (x, z) ↔
      k.Recoverable ∧ x = max k.factor1 k.factor2 ∧ z = min k.factor1 k.factor2 := by
  have hfits (he : Nat.pow 2 16 < k.exponent) :=
    exists_multiple_iff (t := k.factor1 + k.factor2 - 1) (hk.multiple_pos he) hk.preds_pos
      hk.preds_dvd_multiple
  rw [← hk.modulus_eq] at hfits
  rw [PrivateKey.recover_eq_ok_iff, ← multiple]
  constructor
  · rintro ⟨hlow, -, -, -, hlt, hproduct, j, hj, heq, hle⟩
    obtain ⟨rfl, rfl⟩ := hk.eq_max_min hp hq hlow hlt hproduct heq
    rw [max_add_min] at heq hle
    exact ⟨⟨hlow, (hfits hlow).1 ⟨j, hj, heq, hle⟩⟩, rfl, rfl⟩
  · rintro ⟨⟨hlow, hle⟩, rfl, rfl⟩
    have hlt : min k.factor1 k.factor2 < max k.factor1 k.factor2 :=
      min_lt_max.2 hk.factor1_ne_factor2
    have hproduct : max k.factor1 k.factor2 * min k.factor1 k.factor2 = k.modulus :=
      (max_mul_min _ _).trans hk.factors
    rw [max_add_min]
    exact ⟨hlow, hk.exponent_lt, hk.secret_mul_exponent_ne_zero, hk.modulus_pos.ne', hlt, hproduct,
      (hfits hlow).2 hle⟩

/-- The private operation does not depend on the order of the factors. -/
theorem Sound.apply_largerFirst (c : Nat) : k.largerFirst.apply c = k.apply c := by
  have hmax : (max k.factor1 k.factor2).Prime := by
    rcases max_choice k.factor1 k.factor2 with h | h <;> rwa [h]
  have hmin : (min k.factor1 k.factor2).Prime := by
    rcases min_choice k.factor1 k.factor2 with h | h <;> rwa [h]
  rw [(hk.largerFirst hp hq).apply_eq hmax hmin, hk.apply_eq hp hq]
  rfl

/-- The factors are recovered as they were, apart from their order, or not at all. -/
theorem Sound.ofNumbers_none : ofNumbers k.modulus k.exponent k.secret none =
    if k.Recoverable then .ok k.largerFirst else .error (.rejected .invalidArguments) := by
  split
  · next hrecoverable =>
    exact ofNumbers_eq_ok_iff.2
      ⟨hk.largerFirst hp hq, rfl, rfl, rfl,
        (hk.recover_eq_ok_iff hp hq).2 ⟨hrecoverable, rfl, rfl⟩⟩
  · next hnot =>
    rw [PrivateKey.ofNumbers_none, bind_eq_error_iff]
    left
    cases hresult : recover k.modulus k.exponent k.secret with
    | ok pq => exact absurd ((hk.recover_eq_ok_iff hp hq).1 hresult).1 hnot
    | error f =>
      rcases recover_eq_error hresult with rfl | rfl
      · rfl
      · obtain ⟨-, -, hzero⟩ := recover_eq_negativeDifference_iff.1 hresult
        exact absurd hzero (not_or.2 ⟨hk.secret_mul_exponent_ne_zero, hk.modulus_pos.ne'⟩)

end

/-- The key of 2048 bits is found again, the one of the textbooks is not. -/
example : sample.Recoverable ∧ ¬Recoverable ⟨3233, 17, 413, 61, 53, 38⟩ := by decide +kernel

end PrivateKey

end SignOn.Crypto.Rsa
