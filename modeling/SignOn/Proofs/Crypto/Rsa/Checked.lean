import SignOn.Proofs.Crypto.Rsa.Key

/-!
# Building a private key, one difference and one quotient at a time

Here every difference, quotient and remainder is a step of its own, which fails where there is none.
The steps yield what building the key yields, so none of them fails apart from the differences at
the start of the recovery of the factors.
-/

namespace SignOn.Crypto.Rsa

open Outcome

/-- How a computation on natural numbers ends without a result. -/
inductive Halt where
  | rejected (reason : Reason)
  | negativeDifference
  | divisionByZero
deriving DecidableEq, Repr

def Halt.ofFailure : Failure → Halt
  | .rejected reason => .rejected reason
  | .negativeDifference => .negativeDifference

namespace Checked

/-- The difference, if it is a natural number. -/
def sub (a b : Nat) : Except Halt Nat := if b ≤ a then .ok (a - b) else .error .negativeDifference

def div (a b : Nat) : Except Halt Nat := if b = 0 then .error .divisionByZero else .ok (a / b)

def mod (a b : Nat) : Except Halt Nat := if b = 0 then .error .divisionByZero else .ok (a % b)

def reject (reason : Reason) : Except Halt Unit := .error (.rejected reason)

variable {a b : Nat}

theorem sub_of_le (h : b ≤ a) : sub a b = .ok (a - b) := if_pos h

theorem div_of_ne_zero (h : b ≠ 0) : div a b = .ok (a / b) := if_neg h

theorem mod_of_ne_zero (h : b ≠ 0) : mod a b = .ok (a % b) := if_neg h

/-- The factors of a modulus, computed from both exponents. -/
def recover (n e d : Nat) : Except Halt (Nat × Nat) := do
  if e ≤ Nat.pow 2 16 ∨ Nat.pow 2 256 ≤ e then reject .invalidArguments
  let product ← sub (d * e) 1
  let pred ← sub n 1
  let a := product * Nat.gcd pred product
  let m ← div a n
  let r ← sub a (m * n)
  let rest ← sub n r
  if (← mod rest (m + 1)) ≠ 0 then reject .invalidArguments
  let b := (← div rest (m + 1)) + 1
  if b * b ≤ 4 * n then reject .invalidArguments
  let square ← sub (b * b) (4 * n)
  let y := sqrt square
  if y * y ≠ square then reject .invalidArguments
  let p ← div (b + y) 2
  let q ← div (← sub b y) 2
  return (p, q)

/-- A root that is exact is not above the base of the square that is diminished. -/
theorem sqrt_le_of_mul_self_eq {b c : Nat} (h : sqrt (b * b - c) * sqrt (b * b - c) = b * b - c) :
    sqrt (b * b - c) ≤ b := by
  by_contra hlt
  have habove : b * b < sqrt (b * b - c) * sqrt (b * b - c) :=
    Nat.mul_self_lt_mul_self (Nat.lt_of_not_le hlt)
  omega

/-- There is no number before the product of the exponents, or before the modulus, if it is zero. -/
theorem recover_of_zero {n e d : Nat} (he : ¬(e ≤ Nat.pow 2 16 ∨ Nat.pow 2 256 ≤ e))
    (hzero : d * e = 0 ∨ n = 0) : recover n e d = .error .negativeDifference := by
  rw [recover, if_neg he]
  by_cases hde : d * e = 0
  · rw [hde]
    rfl
  · have hn : n = 0 := hzero.resolve_left hde
    rw [sub_of_le (Nat.pos_of_ne_zero hde), hn]
    rfl

/-- Recovering the factors takes a difference below zero only at its start, and never divides by
zero. -/
theorem recover_eq (n e d : Nat) :
    recover n e d = (PrivateKey.recover n e d).mapError .ofFailure := by
  by_cases he : e ≤ Nat.pow 2 16 ∨ Nat.pow 2 256 ≤ e
  · rw [recover, PrivateKey.recover, if_pos he, if_pos he]
    rfl
  by_cases hzero : d * e = 0 ∨ n = 0
  · rw [recover_of_zero he hzero, PrivateKey.recover, if_neg he, if_pos hzero]
    rfl
  obtain ⟨hde, hn⟩ := not_or.1 hzero
  -- from here on every divisor is a successor or the modulus, and every difference is of a part
  rw [recover, PrivateKey.recover, if_neg he, if_neg he, if_neg hzero,
    sub_of_le (Nat.pos_of_ne_zero hde), sub_of_le (Nat.pos_of_ne_zero hn)]
  simp only [pure_eq, ok_bind]
  generalize (d * e - 1) * Nat.gcd (n - 1) (d * e - 1) = a
  have hr : a - a / n * n = a % n := Nat.mod_eq_sub_div_mul.symm
  have hrest : a % n < n := Nat.mod_lt a (Nat.pos_of_ne_zero hn)
  rw [div_of_ne_zero hn, ok_bind, sub_of_le (Nat.div_mul_le_self a n), hr, ok_bind,
    sub_of_le hrest.le, ok_bind, mod_of_ne_zero (Nat.succ_ne_zero _), ok_bind]
  split
  · rfl
  rw [div_of_ne_zero (Nat.succ_ne_zero _)]
  simp only [ok_bind]
  generalize (n - a % n) / (a / n + 1) + 1 = b
  split
  · rfl
  next hb =>
  rw [sub_of_le (Nat.lt_of_not_le hb).le]
  simp only [ok_bind]
  split
  · rfl
  next hy =>
  rw [div_of_ne_zero two_ne_zero, ok_bind, sub_of_le (sqrt_le_of_mul_self_eq (by simpa using hy)),
    ok_bind, div_of_ne_zero two_ne_zero]
  rfl

def bezout (a b : Nat) : Except Halt (Nat × Int × Int) :=
  if _ : b = 0 then .ok (a, 1, 0)
  else do
    let quotient ← div a b
    let (g, x, y) ← bezout b (a % b)
    return (g, y, x - quotient * y)
termination_by b
decreasing_by exact Nat.mod_lt _ (Nat.pos_of_ne_zero ‹_›)

/-- The inverse of `a` modulo `m`. -/
def inverse (a m : Nat) : Except Halt Nat := do
  let (g, x, _) ← bezout a m
  if g ≠ 1 then reject .invalidPrime
  if m = 0 then .error .divisionByZero
  return (x.emod m).toNat

/-- The checks on the numbers of a key. -/
def validate (n e d p q : Nat) : Except Halt Unit := do
  (PublicKey.check ⟨n, e⟩).mapError .rejected
  if p ≤ 1 ∨ q ≤ 1 then reject .invalidPrime
  if p * q ≠ n then reject .invalidModulus
  if (← mod (d * e) (← sub p 1)) ≠ 1 then reject .invalidExponent
  if (← mod (d * e) (← sub q 1)) ≠ 1 then reject .invalidExponent

/-- The private exponent modulo the predecessors of both factors, and the coefficient. -/
def precompute (d p q : Nat) : Except Halt (Nat × Nat × Nat) := do
  let d1 ← mod d (← sub p 1)
  let d2 ← mod d (← sub q 1)
  return (d1, d2, ← inverse q p)

def ofFactors (n e d p q : Nat) : Except Halt PrivateKey := do
  validate n e d p q
  let (_, _, c) ← precompute d p q
  return ⟨n, e, d, p, q, c⟩

def ofNumbers (n e d : Nat) : Option (Nat × Nat) → Except Halt PrivateKey
  | some (p, q) => ofFactors n e d p q
  | none => do
    let (p, q) ← recover n e d
    ofFactors n e d p q

theorem bezout_eq (a b : Nat) : bezout a b = .ok (Rsa.bezout a b) := by
  fun_induction Rsa.bezout a b with
  | case1 a =>
    rw [bezout]
    rfl
  | case2 a b hb g x y hrec ih =>
    rw [bezout, dif_neg hb, div_of_ne_zero hb, ok_bind, ih, hrec]
    rfl

theorem inverse_eq {a m : Nat} (hm : m ≠ 0) :
    inverse a m =
      match inverse? a m with
      | some c => .ok c
      | none => .error (.rejected .invalidPrime) := by
  rw [inverse, bezout_eq, inverse?, ok_bind]
  dsimp only
  by_cases hg : (Rsa.bezout a m).1 = 1
  · simp [hg, hm]
  · simp [hg, reject]

theorem precompute_eq {d p q : Nat} (hp : 1 < p) (hq : 1 < q) :
    precompute d p q = (fun c ↦ (d % (p - 1), d % (q - 1), c)) <$> inverse q p := by
  rw [precompute, sub_of_le hp.le, ok_bind, mod_of_ne_zero (by omega), ok_bind, sub_of_le hq.le,
    ok_bind, mod_of_ne_zero (by omega), ok_bind]
  cases inverse q p <;> rfl

theorem ofFactors_eq (n e d p q : Nat) :
    ofFactors n e d p q = (PrivateKey.ofFactors n e d p q).mapError .rejected := by
  rw [ofFactors, validate, PrivateKey.ofFactors]
  cases PublicKey.check ⟨n, e⟩ with
  | error reason => rfl
  | ok _ =>
    simp only [Except.mapError, ok_bind]
    split
    · rfl
    next hone =>
    obtain ⟨hp, hq⟩ : 1 < p ∧ 1 < q := by omega
    split
    · rfl
    rw [sub_of_le hp.le, ok_bind, mod_of_ne_zero (by omega), ok_bind, sub_of_le hq.le]
    by_cases h1 : d * e % (p - 1) = 1
    · rw [if_neg (not_not.2 h1), ok_bind, mod_of_ne_zero (by omega), ok_bind]
      by_cases h2 : d * e % (q - 1) = 1
      · rw [if_neg (not_not.2 h2), if_neg (by simp [h1, h2]), precompute_eq hp hq,
          inverse_eq (by omega)]
        cases inverse? q p <;> rfl
      · rw [if_pos h2, if_pos (.inr h2)]
        rfl
    · rw [if_pos h1, if_pos (.inl h1)]
      rfl

/-- Building a key divides by nothing that may be zero, and the only differences that it takes below
zero are those at the start of the recovery. -/
theorem ofNumbers_eq (n e d : Nat) (factors : Option (Nat × Nat)) :
    ofNumbers n e d factors = (PrivateKey.ofNumbers n e d factors).mapError .ofFailure := by
  have hfactors (p q : Nat) : ofFactors n e d p q =
      ((PrivateKey.ofFactors n e d p q).mapError Failure.rejected).mapError .ofFailure := by
    rw [ofFactors_eq]
    cases PrivateKey.ofFactors n e d p q <;> rfl
  cases factors with
  | some pq => rw [ofNumbers, hfactors, PrivateKey.ofNumbers_some]
  | none =>
    rw [ofNumbers, PrivateKey.ofNumbers_none, recover_eq]
    cases PrivateKey.recover n e d with
    | error f => rfl
    | ok pq => exact hfactors pq.1 pq.2

/-- No number by which building a key divides is zero. -/
theorem ofNumbers_ne_divisionByZero (n e d : Nat) (factors : Option (Nat × Nat)) :
    ofNumbers n e d factors ≠ .error .divisionByZero := by
  rw [ofNumbers_eq]
  cases PrivateKey.ofNumbers n e d factors with
  | ok k => rintro ⟨⟩
  | error f => cases f <;> rintro ⟨⟩

end Checked

namespace PrivateKey

theorem recover_eq_negativeDifference_iff {n e d : Nat} :
    recover n e d = .error .negativeDifference ↔
      Nat.pow 2 16 < e ∧ e < Nat.pow 2 256 ∧ (d * e = 0 ∨ n = 0) := by
  by_cases he : e ≤ Nat.pow 2 16 ∨ Nat.pow 2 256 ≤ e
  · rw [recover, if_pos he]
    constructor
    · rintro ⟨⟩
    · rintro ⟨hlow, hhigh, -⟩
      exact absurd he (by omega)
  obtain ⟨hlow, hhigh⟩ := not_or.1 he
  by_cases hzero : d * e = 0 ∨ n = 0
  · rw [recover, if_neg he, if_pos hzero]
    exact ⟨fun _ ↦ ⟨Nat.lt_of_not_le hlow, Nat.lt_of_not_le hhigh, hzero⟩, fun _ ↦ rfl⟩
  · rw [recover, if_neg he, if_neg hzero]
    constructor
    · intro h
      dsimp only at h
      split at h
      · cases h
      split at h
      · cases h
      split at h <;> cases h
    · rintro ⟨-, -, h⟩
      exact absurd h hzero

/-- A difference below zero is needed only if the factors are missing, and both exponents have the
product zero or the modulus is zero. -/
theorem ofNumbers_eq_negativeDifference_iff {n e d : Nat} {factors : Option (Nat × Nat)} :
    ofNumbers n e d factors = .error .negativeDifference ↔ factors = none ∧
      Nat.pow 2 16 < e ∧ e < Nat.pow 2 256 ∧ (d * e = 0 ∨ n = 0) := by
  have hfactors (p q : Nat) :
      (ofFactors n e d p q).mapError Failure.rejected ≠ .error .negativeDifference := by
    cases ofFactors n e d p q <;> rintro ⟨⟩
  cases factors with
  | some pq =>
    rw [ofNumbers_some]
    simp [hfactors]
  | none =>
    rw [ofNumbers_none, bind_eq_error_iff, recover_eq_negativeDifference_iff]
    simp [hfactors]

end PrivateKey

theorem Checked.ofNumbers_eq_negativeDifference_iff {n e d : Nat} {factors : Option (Nat × Nat)} :
    ofNumbers n e d factors = .error .negativeDifference ↔ factors = none ∧
      Nat.pow 2 16 < e ∧ e < Nat.pow 2 256 ∧ (d * e = 0 ∨ n = 0) := by
  rw [ofNumbers_eq, ← PrivateKey.ofNumbers_eq_negativeDifference_iff]
  cases PrivateKey.ofNumbers n e d factors with
  | ok k => simp [Except.mapError]
  | error f => cases f <;> simp [Except.mapError, Halt.ofFailure]

end SignOn.Crypto.Rsa
