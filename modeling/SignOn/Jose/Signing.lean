import SignOn.Crypto.Rsa.Signature
import SignOn.Entropy
import SignOn.Jose.Algorithm
import SignOn.Jose.Material
import SignOn.Text.Dotted

/-! # Signing tokens -/

namespace SignOn.Jose

open Crypto Json Text

/-- A signed token, and how it was made. -/
structure SignedToken where
  compact : String
  keyId : String
  algorithm : SignatureAlgorithm
deriving DecidableEq, Repr

/-- What a signature is made with. -/
inductive SigningKey where
  | rsa (key : Rsa.PrivateKey)
  | secret (bytes : Bytes)
deriving DecidableEq, Repr

namespace SigningKey

/-- The signature of a message, by an algorithm of the key's family. -/
def sign (k : SigningKey) (r : Entropy) (a : SignatureAlgorithm) (message : Bytes) :
    Except Rsa.SignError Bytes :=
  match k, a.padding? with
  | .rsa key, some padding => key.sign padding a.hash (r.salt a.hash.length).toList message
  | .secret bytes, _ => .ok (a.hash.hmac bytes message)
  | .rsa _, none => .error .failed

end SigningKey

/-- A key that signs. -/
structure Signer where
  kid : String
  key : SigningKey
  algorithms : List SignatureAlgorithm
  preferred : SignatureAlgorithm
deriving DecidableEq, Repr

namespace Signer

/-- The algorithm that a hint names, if it is listed; else the last of a list for shared secrets
and the first of any other list. -/
def preference? (hint : Option String) (listed : List SignatureAlgorithm) :
    Option SignatureAlgorithm :=
  match hint.bind (fun s ↦ (SignatureAlgorithm.parse s).toOption) with
  | some a => if a ∈ listed then some a else fallback
  | none => fallback
where
  fallback := if listed.all (·.isHmac) then listed.getLast? else listed.head?

def make? (kid : String) (k : Jwk) (key : SigningKey) (listed : List SignatureAlgorithm) :
    Option Signer :=
  (preference? k.alg listed).map fun preferred ↦ ⟨kid, key, listed, preferred⟩

/-- The signer of a key, if it can sign. -/
def ofJwk (kid : String) (k : Jwk) : Except Failure (Option Signer) :=
  match k.kind with
  | .rsa => do
    let key ← k.rsaPrivateKey?
    return key.bind fun key ↦ make? kid k (.rsa key) SignatureAlgorithm.rsa
  | .octets => do
    let secret ← k.sharedSecret
    return make? kid k (.secret secret) (SignatureAlgorithm.forSecretLength secret.length)
  | .ellipticCurve | .octetPair | .other _ => .ok none

/-- The header of the tokens that a key signs. -/
def header (kid : String) (a : SignatureAlgorithm) : Value :=
  .object [("typ", .string "JWT"), ("alg", .string a.name), ("kid", .string kid)]

/-- What is signed: the header and the claims as segments. -/
def signingInput (kid : String) (a : SignatureAlgorithm) (claims : Value) : String :=
  Dotted.join [Base64Url.encode (utf8 (header kid a).text), Base64Url.encode (utf8 claims.text)]

def sign (x : Signer) (r : Entropy) (claims : Value) (a : SignatureAlgorithm) :
    Except Error SignedToken :=
  if a ∉ x.algorithms then .error (.unsupportedAlgorithm a.name (some x.kid))
  else
    let input := signingInput x.kid a claims
    match x.key.sign r a (utf8 input) with
    | .ok signature => .ok ⟨Dotted.join [input, Base64Url.encode signature], x.kid, a⟩
    | .error e => .error (.signingFailed x.kid e.message)

def describe (x : Signer) : String :=
  "Signer \x7b kid: " ++ quote x.kid ++ ", algorithms: " ++
    bracket (x.algorithms.map SignatureAlgorithm.name) ++ ", preferred: " ++ x.preferred.name ++
    ", .. \x7d"

end Signer

end SignOn.Jose
