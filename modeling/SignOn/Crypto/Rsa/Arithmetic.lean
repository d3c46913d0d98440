/-! # Powers, inverses and roots of natural numbers -/

namespace SignOn.Crypto.Rsa

/-- `b` to the power `e`, modulo `n`. -/
def powMod (b e n : Nat) : Nat :=
  if e = 0 then 1 % n
  else
    let half := powMod (b * b % n) (e / 2) n
    if e % 2 = 1 then b * half % n else half
termination_by e

/-- The greatest common divisor of `a` and `b`, and the factor of `a` in a combination of both that
yields it, and the factor of `b`. -/
def bezout (a b : Nat) : Nat × Int × Int :=
  if _ : b = 0 then (a, 1, 0)
  else
    let (g, x, y) := bezout b (a % b)
    (g, y, x - (a / b : Nat) * y)
termination_by b
decreasing_by exact Nat.mod_lt _ (Nat.pos_of_ne_zero ‹_›)

/-- The inverse of `a` modulo `m`. -/
def inverse? (a m : Nat) : Option Nat :=
  let (g, x, _) := bezout a m
  if g = 1 then some (x.emod m).toNat else none

/-- The largest number whose square is not above `n`. -/
def sqrt (n : Nat) : Nat :=
  if n = 0 then 0
  else
    let r := 2 * sqrt (n / 4)
    if (r + 1) * (r + 1) ≤ n then r + 1 else r
termination_by n

end SignOn.Crypto.Rsa
