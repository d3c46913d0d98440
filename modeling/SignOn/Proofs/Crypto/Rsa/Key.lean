import SignOn.Crypto.Rsa.Key
import SignOn.Proofs.Crypto.Octets
import SignOn.Proofs.Crypto.Rsa.Arithmetic
import SignOn.Proofs.Outcome

/-! # What the numbers of a sound RSA key satisfy -/

namespace SignOn.Crypto.Rsa

open Outcome

theorem PublicKey.check_eq_ok {k : PublicKey} (h : k.check = .ok ()) :
    k.modulus % 2 = 1 ∧ k.exponent % 2 = 1 ∧ k.exponent < Nat.pow 2 33 := by
  simp only [check, ite_error_eq_ok_iff, not_or, Nat.not_lt] at h
  obtain ⟨-, ⟨-, hmodulus⟩, hexponent, -, hbound, -⟩ := h
  have hpos : 0 < Nat.pow 2 33 := by decide
  exact ⟨by omega, by omega, by omega⟩

theorem PublicKey.ofNumbers_eq_ok {n e : Nat} {key : PublicKey} (h : ofNumbers n e = .ok key) :
    bitLength n ≤ maxBits ∧ PublicKey.check ⟨n, e⟩ = .ok () ∧ key = ⟨n, e⟩ := by
  simp only [ofNumbers, error_bind, ite_error_eq_ok_iff] at h
  obtain ⟨hbits, h⟩ := h
  obtain ⟨_, hcheck, h⟩ := bind_eq_ok_iff.1 h
  exact ⟨Nat.le_of_not_lt hbits, hcheck, (Except.ok.inj h).symm⟩

namespace PrivateKey

/-- The relations between the numbers of a private key. -/
structure Sound (k : PrivateKey) : Prop where
  check : k.toPublic.check = .ok ()
  one_lt_factor1 : 1 < k.factor1
  one_lt_factor2 : 1 < k.factor2
  factors : k.factor1 * k.factor2 = k.modulus
  inverse1 : k.secret * k.exponent % (k.factor1 - 1) = 1
  inverse2 : k.secret * k.exponent % (k.factor2 - 1) = 1
  coefficient : inverse? k.factor2 k.factor1 = some k.coefficient

/-- Numbers that satisfy the relations make up a key. -/
theorem Sound.ofFactors_eq {k : PrivateKey} (hk : k.Sound) :
    ofFactors k.modulus k.exponent k.secret k.factor1 k.factor2 = .ok k := by
  have h1 := hk.one_lt_factor1
  have h2 := hk.one_lt_factor2
  have hcheck : PublicKey.check ⟨k.modulus, k.exponent⟩ = .ok () := hk.check
  rw [ofFactors, hcheck, ok_bind, if_neg (by omega)]
  simp only [hk.factors, hk.inverse1, hk.inverse2, hk.coefficient, ne_eq, not_true_eq_false,
    or_self, if_false]

/-- No others do, and the key has the numbers that it was built from. -/
theorem ofFactors_eq_ok_iff {n e d p q : Nat} {key : PrivateKey} :
    ofFactors n e d p q = .ok key ↔ key.Sound ∧ key.modulus = n ∧ key.exponent = e ∧
      key.secret = d ∧ key.factor1 = p ∧ key.factor2 = q := by
  constructor
  · intro h
    rw [ofFactors] at h
    obtain ⟨_, hcheck, h⟩ := bind_eq_ok_iff.1 h
    simp only [error_bind, ite_error_eq_ok_iff, not_or, ne_eq, Decidable.not_not] at h
    obtain ⟨⟨hp, hq⟩, hmodulus, ⟨hp', hq'⟩, h⟩ := h
    cases hc : inverse? q p with
    | none =>
      rw [hc] at h
      cases h
    | some c =>
      rw [hc] at h
      obtain rfl := Except.ok.inj h
      exact ⟨⟨hcheck, Nat.lt_of_not_le hp, Nat.lt_of_not_le hq, hmodulus, hp', hq', hc⟩, rfl, rfl,
        rfl, rfl, rfl⟩
  · rintro ⟨hsound, rfl, rfl, rfl, rfl, rfl⟩
    exact hsound.ofFactors_eq

theorem ofNumbers_some (n e d p q : Nat) :
    ofNumbers n e d (some (p, q)) = (ofFactors n e d p q).mapError .rejected := by
  simp only [ofNumbers, pure_eq, ok_bind]
  cases ofFactors n e d p q <;> rfl

theorem ofNumbers_none (n e d : Nat) :
    ofNumbers n e d none =
      recover n e d >>= fun pq ↦ (ofFactors n e d pq.1 pq.2).mapError .rejected := by
  simp only [ofNumbers]
  refine bind_congr fun pq ↦ ?_
  cases ofFactors n e d pq.1 pq.2 <;> rfl

/-- A key is built if the relations hold for the factors that are given or, if there are none, for
those that are recovered. -/
theorem ofNumbers_eq_ok_iff {n e d : Nat} {factors : Option (Nat × Nat)} {key : PrivateKey} :
    ofNumbers n e d factors = .ok key ↔ key.Sound ∧ key.modulus = n ∧ key.exponent = e ∧
      key.secret = d ∧ factors.elim (recover n e d) .ok = .ok (key.factor1, key.factor2) := by
  have hfactors {p q : Nat} : (ofFactors n e d p q).mapError Failure.rejected = .ok key ↔
      ofFactors n e d p q = .ok key := by
    cases ofFactors n e d p q <;> simp [Except.mapError]
  cases factors with
  | some pq =>
    obtain ⟨p, q⟩ := pq
    rw [ofNumbers_some, hfactors, ofFactors_eq_ok_iff]
    simp only [Option.elim_some, Except.ok.injEq, Prod.mk.injEq, eq_comm]
  | none =>
    rw [ofNumbers_none, bind_eq_ok_iff]
    simp only [hfactors, ofFactors_eq_ok_iff, Option.elim_none]
    constructor
    · rintro ⟨⟨p, q⟩, hrecover, hsound, rfl, rfl, rfl, rfl, rfl⟩
      exact ⟨hsound, rfl, rfl, rfl, hrecover⟩
    · rintro ⟨hsound, hn, he, hd, hrecover⟩
      exact ⟨_, hrecover, hsound, hn, he, hd, rfl, rfl⟩

section

variable {k : PrivateKey} (hk : k.Sound)

include hk

theorem Sound.modulus_pos : 0 < k.modulus := by
  have h1 := hk.one_lt_factor1
  have h2 := hk.one_lt_factor2
  rw [← hk.factors]
  positivity

/-- What the private operation yields is below the modulus. -/
theorem Sound.apply_lt (c : Nat) : k.apply c < k.modulus := by
  have h1 : 0 < k.factor1 := Nat.lt_of_succ_lt hk.one_lt_factor1
  have h2 : 0 < k.factor2 := Nat.lt_of_succ_lt hk.one_lt_factor2
  rw [← hk.factors, apply, powMod_eq, powMod_eq]
  have hlow := Nat.mod_lt (c ^ (k.secret % (k.factor2 - 1))) h2
  generalize c ^ (k.secret % (k.factor2 - 1)) % k.factor2 = m2 at hlow ⊢
  generalize ((((c ^ (k.secret % (k.factor1 - 1)) % k.factor1 : Nat) : Int) - m2).emod
    k.factor1).toNat * k.coefficient = h
  have hhigh : h % k.factor1 + 1 ≤ k.factor1 := Nat.mod_lt h h1
  calc m2 + h % k.factor1 * k.factor2 < k.factor2 + h % k.factor1 * k.factor2 := by omega
    _ = (h % k.factor1 + 1) * k.factor2 := by ring
    _ ≤ k.factor1 * k.factor2 := Nat.mul_le_mul_right _ hhigh

/-- The private operation undoes the public one, if the factors are prime. -/
theorem Sound.apply_toPublic_apply (hp : k.factor1.Prime) (hq : k.factor2.Prime) {m : Nat}
    (hm : m < k.modulus) : k.apply (k.toPublic.apply m) = m := by
  obtain ⟨hcoprime, hinverse⟩ := inverse?_eq_some hp.pos hk.coefficient
  have h1 : k.factor1 ∣ k.modulus := hk.factors ▸ Dvd.intro _ rfl
  have h2 : k.factor2 ∣ k.modulus := hk.factors ▸ Dvd.intro_left _ rfl
  rw [← hk.factors] at hm
  have hgarner := garner hp.pos hq.pos hcoprime hinverse hm
  simp only [apply, PublicKey.apply, toPublic, powMod_powMod hp h1 hk.inverse1,
    powMod_powMod hq h2 hk.inverse2]
  exact hgarner

theorem Sound.undo?_apply (hp : k.factor1.Prime) (hq : k.factor2.Prime) {m : Nat}
    (hm : m < k.modulus) : k.undo? (k.toPublic.apply m) = some m := by
  have hlt : k.toPublic.apply m < k.modulus := by
    rw [PublicKey.apply, powMod_eq]
    exact Nat.mod_lt _ hk.modulus_pos
  rw [undo?, if_neg (Nat.not_le.2 hlt)]
  simp only [hk.apply_toPublic_apply hp hq hm, if_true]

/-- The public operation takes different numbers to different ones, so it reaches all of them, and
the private operation is confirmed everywhere. -/
theorem Sound.exists_undo? (hp : k.factor1.Prime) (hq : k.factor2.Prime) {c : Nat}
    (hc : c < k.modulus) : ∃ m, k.undo? c = some m := by
  have hlt (m : Nat) : k.toPublic.apply m < k.modulus := by
    rw [PublicKey.apply, powMod_eq]
    exact Nat.mod_lt _ hk.modulus_pos
  have hinjective : Function.Injective fun m : Fin k.modulus ↦
      (⟨k.toPublic.apply m, hlt m⟩ : Fin k.modulus) := by
    intro m m' h
    have heq : k.toPublic.apply m = k.toPublic.apply m' := Fin.mk.inj h
    refine Fin.ext ?_
    rw [← hk.apply_toPublic_apply hp hq m.isLt, heq, hk.apply_toPublic_apply hp hq m'.isLt]
  obtain ⟨m, hm⟩ := Finite.surjective_of_injective hinjective ⟨c, hc⟩
  obtain rfl : k.toPublic.apply m = c := Fin.mk.inj hm
  exact ⟨m, hk.undo?_apply hp hq m.isLt⟩

/-- What the private operation yields is confirmed by the public one. -/
theorem Sound.of_undo? {c m : Nat} (h : k.undo? c = some m) :
    m < k.modulus ∧ k.toPublic.apply m = c := by
  rw [undo?] at h
  split at h
  · cases h
  · dsimp only at h
    split at h
    · next hconfirmed =>
      obtain rfl := Option.some.inj h
      exact ⟨hk.apply_lt c, hconfirmed⟩
    · cases h

end

end PrivateKey

end SignOn.Crypto.Rsa
