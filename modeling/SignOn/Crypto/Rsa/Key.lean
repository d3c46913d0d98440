import SignOn.Crypto.Octets
import SignOn.Crypto.Rsa.Arithmetic

/-! # RSA keys and the checks they have to pass -/

namespace SignOn.Crypto.Rsa

/-- Why numbers make no RSA key. -/
inductive Reason where
  | modulusTooLarge
  | exponentTooLarge
  | invalidModulus
  | invalidExponent
  | exponentTooSmall
  | invalidPrime
  | invalidArguments
deriving DecidableEq, Repr

def Reason.message : Reason → String
  | .modulusTooLarge => "modulus too large"
  | .exponentTooLarge => "public exponent too large"
  | .invalidModulus => "invalid modulus"
  | .invalidExponent => "invalid exponent"
  | .exponentTooSmall => "public exponent too small"
  | .invalidPrime => "invalid prime value"
  | .invalidArguments => "invalid arguments"

/-- How building a key ends without one: it is rejected, or a difference of natural numbers that it
needs would be negative. -/
inductive Failure where
  | rejected (reason : Reason)
  | negativeDifference
deriving DecidableEq, Repr

structure PublicKey where
  modulus : Nat
  exponent : Nat
deriving DecidableEq, Repr

namespace PublicKey

/-- The bytes of a number below the modulus. -/
def size (k : PublicKey) : Nat := byteLength k.modulus

def apply (k : PublicKey) (m : Nat) : Nat := powMod m k.exponent k.modulus

/-- The largest modulus that is worked with, in bits. -/
def maxBits : Nat := 4096

/-- What is asked of the numbers of a public key, whatever the size of the modulus. -/
def check (k : PublicKey) : Except Reason Unit :=
  if Nat.pow 2 64 ≤ k.exponent then .error .exponentTooLarge
  else if k.modulus ≤ k.exponent ∨ k.modulus % 2 = 0 then .error .invalidModulus
  else if k.exponent % 2 = 0 then .error .invalidExponent
  else if k.exponent < 2 then .error .exponentTooSmall
  else if Nat.pow 2 33 - 1 < k.exponent then .error .exponentTooLarge
  else .ok ()

def ofNumbers (n e : Nat) : Except Reason PublicKey := do
  let k : PublicKey := ⟨n, e⟩
  if maxBits < bitLength n then .error .modulusTooLarge
  k.check
  return k

end PublicKey

structure PrivateKey where
  modulus : Nat
  exponent : Nat
  secret : Nat
  factor1 : Nat
  factor2 : Nat
  /-- The inverse of the second factor modulo the first. -/
  coefficient : Nat
deriving DecidableEq, Repr

namespace PrivateKey

/-- The factors of a modulus, computed from both exponents. -/
def recover (n e d : Nat) : Except Failure (Nat × Nat) :=
  if e ≤ Nat.pow 2 16 ∨ Nat.pow 2 256 ≤ e then .error (.rejected .invalidArguments)
  else if d * e = 0 ∨ n = 0 then .error .negativeDifference
  else
    let a := (d * e - 1) * Nat.gcd (n - 1) (d * e - 1)
    let m := a / n
    let r := a % n
    if (n - r) % (m + 1) ≠ 0 then .error (.rejected .invalidArguments)
    else
      let b := (n - r) / (m + 1) + 1
      if b * b ≤ 4 * n then .error (.rejected .invalidArguments)
      else
        let y := sqrt (b * b - 4 * n)
        if y * y ≠ b * b - 4 * n then .error (.rejected .invalidArguments)
        else .ok ((b + y) / 2, (b - y) / 2)

/-- Builds the key from both exponents and the factors, and computes the coefficient. -/
def ofFactors (n e d p q : Nat) : Except Reason PrivateKey := do
  PublicKey.check ⟨n, e⟩
  if p ≤ 1 ∨ q ≤ 1 then .error .invalidPrime
  if p * q ≠ n then .error .invalidModulus
  if d * e % (p - 1) ≠ 1 ∨ d * e % (q - 1) ≠ 1 then .error .invalidExponent
  match inverse? q p with
  | some c => .ok ⟨n, e, d, p, q, c⟩
  | none => .error .invalidPrime

/-- Builds the key; factors that are not given are recovered first. -/
def ofNumbers (n e d : Nat) (factors : Option (Nat × Nat)) : Except Failure PrivateKey := do
  let (p, q) ←
    match factors with
    | some pq => pure pq
    | none => recover n e d
  match ofFactors n e d p q with
  | .ok k => .ok k
  | .error reason => .error (.rejected reason)

def toPublic (k : PrivateKey) : PublicKey := ⟨k.modulus, k.exponent⟩

/-- Undoes the public operation, by way of the residues modulo both factors. -/
def apply (k : PrivateKey) (c : Nat) : Nat :=
  let m1 := powMod c (k.secret % (k.factor1 - 1)) k.factor1
  let m2 := powMod c (k.secret % (k.factor2 - 1)) k.factor2
  let h := (((m1 : Int) - m2).emod k.factor1).toNat * k.coefficient % k.factor1
  m2 + h * k.factor2

/-- The private operation on a number below the modulus, if the public one confirms it. -/
def undo? (k : PrivateKey) (c : Nat) : Option Nat :=
  if k.modulus ≤ c then none
  else
    let m := k.apply c
    if k.toPublic.apply m = c then some m else none

end PrivateKey

end SignOn.Crypto.Rsa
