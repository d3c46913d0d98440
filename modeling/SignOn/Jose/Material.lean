import SignOn.Crypto.Rsa.Key
import SignOn.Jose.Error
import SignOn.Jose.Jwk
import SignOn.Text.Base64Url

/-! # The numbers and secrets that the members of a key denote -/

namespace SignOn.Jose.Jwk

open Crypto Text

/-- The bytes of a member. Padding at its end is passed over. -/
def member (k : Jwk) (name : String) : Option String → Except Error Bytes
  | none => .error (.invalidKeyMaterial k.id ("missing '" ++ name ++ "'"))
  | some s =>
    match Base64Url.decode (Base64Url.stripPadding s) with
    | .ok bs => .ok bs
    | .error e =>
      .error (.invalidKeyMaterial k.id ("'" ++ name ++ "' is not base64url: " ++ e.message))

def number (k : Jwk) (name : String) (value : Option String) : Except Error Nat :=
  toNat <$> k.member name value

def rsaPublicKey (k : Jwk) : Except Error Rsa.PublicKey := do
  let n ← k.number "n" k.n
  let e ← k.number "e" k.e
  match Rsa.PublicKey.ofNumbers n e with
  | .ok key => .ok key
  | .error reason => .error (.invalidKeyMaterial k.id reason.message)

/-- The factors of the modulus, which are given both or not at all. -/
def rsaFactors (k : Jwk) : Except Error (Option (Nat × Nat)) :=
  if k.secret.p = none ∧ k.secret.q = none then .ok none
  else do
    let p ← k.number "p" k.secret.p
    let q ← k.number "q" k.secret.q
    return some (p, q)

/-- The private key, unless the key has no private exponent. -/
def rsaPrivateKey? (k : Jwk) : Except Failure (Option Rsa.PrivateKey) :=
  if k.secret.d = none then .ok none
  else do
    let n ← k.number "n" k.n
    let e ← k.number "e" k.e
    let d ← k.number "d" k.secret.d
    let factors ← k.rsaFactors
    match Rsa.PrivateKey.ofNumbers n e d factors with
    | .ok key => .ok (some key)
    | .error (.rejected reason) =>
      .error (.error (.invalidKeyMaterial k.id reason.message))
    | .error .negativeDifference => .error .negativeDifference

/-- The shared secret, which must not be empty. -/
def sharedSecret (k : Jwk) : Except Error Bytes := do
  let bs ← k.member "k" k.secret.k
  if bs = [] then .error (.invalidKeyMaterial k.id "empty 'k'") else .ok bs

end SignOn.Jose.Jwk
