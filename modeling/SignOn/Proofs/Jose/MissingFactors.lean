import SignOn.Proofs.Crypto.Rsa.Recovery
import SignOn.Proofs.Jose.KeyHalves
import SignOn.Proofs.Jose.SecretFault

/-!
# RSA keys without their factors

A private key that is written without its factors, and without the numbers that are computed from
them, has them recovered. It is the same key then, if it is accepted: that takes a public exponent
that is not too small, and exponents whose product is not too large. One factor alone is refused.
-/

namespace SignOn.Jose

open Crypto Outcome

namespace Jwk

/-- The key without the members that can be computed from the others. -/
def withoutFactors (k : Jwk) : Jwk :=
  { k with
    secret := { k.secret with p := none, q := none, dp := none, dq := none, qi := none } }

section

variable {k : Jwk} {key : Rsa.PrivateKey}

theorem rsaFactors_withoutFactors : k.withoutFactors.rsaFactors = .ok none := if_pos ⟨rfl, rfl⟩

/-- The factors that are given are those of the key. -/
theorem factors_of_rsaFactors {p q : Nat} (hfactors : k.rsaFactors = .ok (some (p, q)))
    (h : k.rsaPrivateKey? = .ok (some key)) : key.factor1 = p ∧ key.factor2 = q := by
  obtain ⟨n, e, d, factors, -, -, -, hgiven, hkey⟩ := rsaPrivateKey?_eq_some_iff.1 h
  obtain ⟨-, -, -, -, helim⟩ := Rsa.PrivateKey.ofNumbers_eq_ok_iff.1 hkey
  rw [hfactors] at hgiven
  obtain rfl := Except.ok.inj hgiven
  obtain ⟨rfl, rfl⟩ := Prod.mk.inj (Except.ok.inj helim)
  exact ⟨rfl, rfl⟩

theorem rsaPrivateKey?_withoutFactors (h : k.rsaPrivateKey? = .ok (some key))
    (hp : key.factor1.Prime) (hq : key.factor2.Prime) :
    k.withoutFactors.rsaPrivateKey? = if key.Recoverable then .ok (some key.largerFirst)
      else .error (.error (.invalidKeyMaterial k.id "invalid arguments")) := by
  obtain ⟨n, e, d, factors, hn, he, hd, -, hkey⟩ := rsaPrivateKey?_eq_some_iff.1 h
  obtain ⟨hsound, rfl, rfl, rfl, -⟩ := Rsa.PrivateKey.ofNumbers_eq_ok_iff.1 hkey
  have hnumbers := hsound.ofNumbers_none hp hq
  have hn' : k.withoutFactors.number "n" k.withoutFactors.n = .ok key.modulus := hn
  have he' : k.withoutFactors.number "e" k.withoutFactors.e = .ok key.exponent := he
  have hd' : k.withoutFactors.number "d" k.withoutFactors.secret.d = .ok key.secret := hd
  simp only [rsaPrivateKey?, if_neg (ne_none_of_number hd'), hn', he', hd',
    rsaFactors_withoutFactors, lift_ok, ok_bind, hnumbers]
  by_cases hrecoverable : key.Recoverable
  · simp only [if_pos hrecoverable]
  · simp only [if_neg hrecoverable]
    rfl

theorem rsaFactors_of_missing_p (hp : k.secret.p = none) (hq : k.secret.q ≠ none) :
    k.rsaFactors = .error (.invalidKeyMaterial k.id "missing 'p'") := by
  rw [rsaFactors, if_neg (fun hnone ↦ hq hnone.2), hp]
  rfl

theorem rsaFactors_of_missing_q {p : Nat} (hp : k.number "p" k.secret.p = .ok p)
    (hq : k.secret.q = none) : k.rsaFactors = .error (.invalidKeyMaterial k.id "missing 'q'") := by
  rw [rsaFactors, if_neg (fun hnone ↦ ne_none_of_number hp hnone.1), hp, hq]
  rfl

end

/-- What becomes of a private key whose factors are left out. -/
structure LeavesOutFactors (k : Jwk) (key : Rsa.PrivateKey) : Prop where
  accepted_iff : (∃ key', k.withoutFactors.rsaPrivateKey? = .ok (some key')) ↔ key.Recoverable
  same : ∀ key', k.withoutFactors.rsaPrivateKey? = .ok (some key') →
    key'.toPublic = key.toPublic ∧ key'.secret = key.secret ∧
      [key'.factor1, key'.factor2].Perm [key.factor1, key.factor2] ∧
      ∀ c, key'.apply c = key.apply c
  refused : ¬key.Recoverable → k.withoutFactors.rsaPrivateKey? =
    .error (.error (.invalidKeyMaterial k.id "invalid arguments"))

/-- Both factors are optional, but not each by itself. -/
structure FactorsOptional (k : Jwk) : Prop where
  both : ∀ p q key, k.rsaFactors = .ok (some (p, q)) → p.Prime → q.Prime →
    k.rsaPrivateKey? = .ok (some key) →
      key.factor1 = p ∧ key.factor2 = q ∧ k.LeavesOutFactors key
  missing_p : ∀ n e d, k.number "n" k.n = .ok n → k.number "e" k.e = .ok e →
    k.number "d" k.secret.d = .ok d → k.secret.p = none → k.secret.q ≠ none →
      k.rsaPrivateKey? = .error (.error (.invalidKeyMaterial k.id "missing 'p'"))
  missing_q : ∀ n e d p, k.number "n" k.n = .ok n → k.number "e" k.e = .ok e →
    k.number "d" k.secret.d = .ok d → k.number "p" k.secret.p = .ok p → k.secret.q = none →
      k.rsaPrivateKey? = .error (.error (.invalidKeyMaterial k.id "missing 'q'"))

theorem leavesOutFactors {k : Jwk} {key : Rsa.PrivateKey} (h : k.rsaPrivateKey? = .ok (some key))
    (hp : key.factor1.Prime) (hq : key.factor2.Prime) : k.LeavesOutFactors key := by
  obtain ⟨hsound, -, -⟩ := number_of_rsaPrivateKey? h
  have hwithout := rsaPrivateKey?_withoutFactors h hp hq
  by_cases hrecoverable : key.Recoverable
  · rw [if_pos hrecoverable] at hwithout
    refine ⟨iff_of_true ⟨_, hwithout⟩ hrecoverable, ?_, fun hnot ↦ absurd hrecoverable hnot⟩
    intro key' hkey'
    obtain rfl := Option.some.inj (Except.ok.inj (hwithout.symm.trans hkey'))
    exact ⟨rfl, rfl, key.perm_largerFirst, hsound.apply_largerFirst hp hq⟩
  · rw [if_neg hrecoverable] at hwithout
    have hnever (key' : Rsa.PrivateKey) : k.withoutFactors.rsaPrivateKey? ≠ .ok (some key') := by
      rw [hwithout]
      rintro ⟨⟩
    exact ⟨iff_of_false (fun ⟨key', hkey'⟩ ↦ hnever key' hkey') hrecoverable,
      fun key' hkey' ↦ absurd hkey' (hnever key'), fun _ ↦ hwithout⟩

theorem factorsOptional (k : Jwk) : k.FactorsOptional where
  both p q key hfactors hp hq h := by
    obtain ⟨rfl, rfl⟩ := factors_of_rsaFactors hfactors h
    exact ⟨rfl, rfl, leavesOutFactors h hp hq⟩
  missing_p n e d hn he hd hp hq :=
    rsaPrivateKey?_of_rsaFactors hn he hd (rsaFactors_of_missing_p hp hq)
  missing_q n e d p hn he hd hp hq :=
    rsaPrivateKey?_of_rsaFactors hn he hd (rsaFactors_of_missing_q hp hq)

end Jwk

/-- The short key with its factors, the larger one behind. -/
def Jwk.factoredKey : Jwk :=
  { shortKey with secret := { shortKey.secret with p := some "AgAd", q := some "AgAn" } }

/-- The short key loses nothing with its factors, but one of them alone is refused. -/
theorem Jwk.factorsOptional_sample :
    (∃ key, factoredKey.withoutFactors.rsaPrivateKey? = .ok (some key) ∧
      key.toPublic = ⟨17188783211, 65537⟩ ∧ key.secret = 708842573 ∧
      [key.factor1, key.factor2].Perm [131101, 131111]) ∧
    { shortKey with secret := { shortKey.secret with q := some "AgAn" } }.rsaPrivateKey? =
      .error (.error (.invalidKeyMaterial "s" "missing 'p'")) := by
  have hgiven : factoredKey.rsaPrivateKey? =
      .ok (some ⟨17188783211, 65537, 708842573, 131101, 131111, 117991⟩) := by decide +kernel
  obtain ⟨-, -, hleaves⟩ := (factorsOptional factoredKey).both 131101 131111 _
    (by decide +kernel) (by norm_num) (by norm_num) hgiven
  obtain ⟨key, hkey⟩ := hleaves.accepted_iff.2 (by decide +kernel)
  obtain ⟨hpublic, hsecret, hperm, -⟩ := hleaves.same key hkey
  refine ⟨⟨key, hkey, hpublic, hsecret, hperm⟩, ?_⟩
  exact (factorsOptional _).missing_p 17188783211 65537 708842573 (by decide +kernel)
    (by decide +kernel) (by decide +kernel) rfl (Option.some_ne_none _)

/-- The key of the textbooks is accepted, and its factors are prime, but its public exponent is too
small for them to be found again. -/
theorem Jwk.refused_withoutFactors_textbookKey :
    let k := Service.textbookKey
    k.kind = .rsa ∧ k.rsaFactors = .ok (some (61, 53)) ∧ Nat.Prime 61 ∧ Nat.Prime 53 ∧
      k.rsaPrivateKey? = .ok (some ⟨3233, 17, 413, 61, 53, 38⟩) ∧
      k.withoutFactors.rsaPrivateKey? =
        .error (.error (.invalidKeyMaterial "t" "invalid arguments")) := by
  exact ⟨rfl, by decide +kernel, by norm_num, by norm_num, rsaPrivateKey?_textbookKey,
    by decide +kernel⟩

end SignOn.Jose
