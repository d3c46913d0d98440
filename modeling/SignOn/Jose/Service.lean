import SignOn.Jose.Encryption
import SignOn.Jose.KeyRing
import SignOn.Jose.Signing
import SignOn.Jose.Verification

/-! # What a ring of keys can do, and doing it by key id -/

namespace SignOn.Jose

open Json Text

/-- What is used when a caller does not choose. -/
structure Defaults where
  encryptionKeyId : Option String
  decryptionKeyId : Option String
  signingKeyId : Option String
  signingAlgorithm : Option SignatureAlgorithm
  encryptionAlgorithm : Option KeyManagement
  encryptionMethod : Option ContentCipher
deriving DecidableEq, Repr

namespace Defaults

def none : Defaults := ⟨.none, .none, .none, .none, .none, .none⟩

def describe (d : Defaults) : String :=
  let chosen : Option String → String
    | some s => "Some(" ++ s ++ ")"
    | .none => "None"
  "JoseDefaults \x7b encryption_key_id: " ++ quoteOption d.encryptionKeyId ++
    ", decryption_key_id: " ++ quoteOption d.decryptionKeyId ++
    ", signing_key_id: " ++ quoteOption d.signingKeyId ++
    ", signing_algorithm: " ++ chosen (d.signingAlgorithm.map SignatureAlgorithm.name) ++
    ", encryption_algorithm: " ++ chosen (d.encryptionAlgorithm.map KeyManagement.describe) ++
    ", encryption_method: " ++ chosen (d.encryptionMethod.map ContentCipher.describe) ++ " \x7d"

end Defaults

/-- What a caller may choose about an encryption. -/
structure EncryptOptions where
  algorithm : Option KeyManagement
  method : Option ContentCipher
  contentType : Option String
deriving DecidableEq, Repr

def EncryptOptions.none : EncryptOptions := ⟨.none, .none, .none⟩

/-- What one key can do. -/
structure Capabilities where
  encrypter : Option Encrypter
  decrypter : Option Decrypter
  signer : Option Signer
  verifier : Option Verifier
deriving DecidableEq, Repr

namespace Capabilities

def ofJwk (kid : String) (k : Jwk) : Except Failure Capabilities := do
  let encrypter ← Encrypter.ofJwk kid k
  let decrypter ← Decrypter.ofJwk kid k
  let signer ← Signer.ofJwk kid k
  let verifier ← Verifier.ofJwk kid k
  return ⟨encrypter, decrypter, signer, verifier⟩

def ofEntries : List (String × Jwk) → Except Failure (List (String × Capabilities))
  | [] => .ok []
  | (kid, k) :: rest => do
    let c ← ofJwk kid k
    let cs ← ofEntries rest
    return (kid, c) :: cs

end Capabilities

/-- A ring of keys with what each of them can do. -/
structure Service where
  ring : KeyRing
  defaults : Defaults
  capabilities : List (String × Capabilities)

namespace Service

/-- The service for a ring of keys, all of which have to be sound. -/
def build (ring : KeyRing) (defaults : Defaults) : Except Failure Service := do
  let capabilities ← Capabilities.ofEntries ring.entries
  return ⟨ring, defaults, capabilities⟩

variable {α : Type}

/-- The keys that can do one thing, with what they do it with. -/
def able (s : Service) (what : Capabilities → Option α) : List (String × α) :=
  s.capabilities.filterMap fun x ↦ (what x.2).map fun a ↦ (x.1, a)

def encrypters (s : Service) : List (String × Encrypter) := s.able Capabilities.encrypter

def decrypters (s : Service) : List (String × Decrypter) := s.able Capabilities.decrypter

def signers (s : Service) : List (String × Signer) := s.able Capabilities.signer

def verifiers (s : Service) : List (String × Verifier) := s.able Capabilities.verifier

/-- The key that was configured, or else the only one there is. -/
def defaultKeyId (s : Service) (configured : Option String) : Option String :=
  match configured with
  | some kid => some kid
  | none => s.ring.soleId?

def defaultEncryptionKeyId (s : Service) : Option String :=
  s.defaultKeyId s.defaults.encryptionKeyId

def defaultDecryptionKeyId (s : Service) : Option String :=
  s.defaultKeyId s.defaults.decryptionKeyId

def defaultSigningKeyId (s : Service) : Option String := s.defaultKeyId s.defaults.signingKeyId

/-- The algorithm that is used when the caller chooses neither key nor algorithm. -/
def defaultSigningAlgorithm (s : Service) : Option SignatureAlgorithm :=
  match s.defaults.signingAlgorithm with
  | some a => some a
  | none =>
    s.defaultSigningKeyId.bind fun kid ↦ (s.signers.lookup kid).map Signer.preferred

/-- Finds what an operation is done with. A key that the caller names is used or refused; without
one the default is, if any key can do the operation at all. -/
def resolve (able : List (String × α)) (op : Operation) (named default : Option String) :
    Except Error α :=
  match named with
  | some kid => find kid
  | none =>
    if able.isEmpty then .error (.noUsableKeys op)
    else
      match default with
      | some kid => find kid
      | none => .error (.noDefaultKey op)
where
  find (kid : String) : Except Error α :=
    match able.lookup kid with
    | some a => .ok a
    | none => .error (.unknownKeyId kid op)

/-- The first choice that was made, or what is preferred. -/
def choose (asked configured : Option α) (preferred : α) : α :=
  (asked.or configured).getD preferred

def encryptWith (s : Service) (r : Entropy) (plaintext : Bytes) (kid : Option String)
    (options : EncryptOptions) : Except Error EncryptedToken := do
  let x ← resolve s.encrypters .encrypt kid s.defaultEncryptionKeyId
  let algorithm := choose options.algorithm s.defaults.encryptionAlgorithm x.preferred.1
  let method := choose options.method s.defaults.encryptionMethod x.preferred.2
  x.encrypt r plaintext algorithm method options.contentType

def encrypt (s : Service) (r : Entropy) (plaintext : Bytes) (kid : Option String) :
    Except Error EncryptedToken :=
  s.encryptWith r plaintext kid .none

def decrypt (s : Service) (token : String) (kid : Option String) : Except Error Bytes := do
  let x ← resolve s.decrypters .decrypt kid s.defaultDecryptionKeyId
  x.decrypt token

def sign (s : Service) (r : Entropy) (claims : Value) (kid : Option String)
    (algorithm : Option SignatureAlgorithm) : Except Error SignedToken := do
  let x ← resolve s.signers .sign kid s.defaultSigningKeyId
  x.sign r claims (choose algorithm s.defaults.signingAlgorithm x.preferred)

/-- The id of the key that the header of a token names, if it has a header. -/
def headerKeyId (token : String) : Option String :=
  match SignatureHeader.ofToken token with
  | .ok h => h.kid
  | .error _ => none

/-- Verifies a token with the key that the caller names, or the token, or the default. -/
def verify (s : Service) (d : Decoder α) (token : String) (kid : Option String) :
    Except Error α := do
  let x ← resolve s.verifiers .verify (kid.or (headerKeyId token)) s.defaultSigningKeyId
  x.verify d token

/-- Those of all values that some key of a list supports. -/
def union [DecidableEq α] (all : List α) (supported : List (List α)) : List α :=
  all.filter fun a ↦ supported.any (a ∈ ·)

def supportedAlgorithms (s : Service) : List KeyManagement :=
  union KeyManagement.all
    (s.encrypters.map (·.2.algorithms) ++ s.decrypters.map (·.2.algorithms))

def supportedMethods (s : Service) : List ContentCipher :=
  union ContentCipher.all (s.encrypters.map (·.2.methods) ++ s.decrypters.map (·.2.methods))

def supportedSigningAlgorithms (s : Service) : List SignatureAlgorithm :=
  union SignatureAlgorithm.all
    (s.signers.map (·.2.algorithms) ++ s.verifiers.map (·.2.algorithms))

def publicKeys (s : Service) : List (String × Jwk) := s.ring.publicKeys

def describe (s : Service) : String :=
  let list (ids : List String) := bracket (ids.map quote)
  "JoseService \x7b keys: " ++ list s.ring.ids ++ ", defaults: " ++ s.defaults.describe ++
    ", encrypters: " ++ list (s.encrypters.map Prod.fst) ++
    ", decrypters: " ++ list (s.decrypters.map Prod.fst) ++
    ", signers: " ++ list (s.signers.map Prod.fst) ++ ", .. \x7d"

end Service

/-- A service that is exchanged as a whole while others keep the one they took. -/
structure SharedService where
  current : Service

namespace SharedService

def snapshot (x : SharedService) : Service := x.current

def replace (_ : SharedService) (s : Service) : SharedService := ⟨s⟩

/-- Builds a service for new keys and puts it in place, unless that fails. -/
def reload (x : SharedService) (ring : KeyRing) (defaults : Defaults) :
    SharedService × Except Failure Unit :=
  match Service.build ring defaults with
  | .ok s => (x.replace s, .ok ())
  | .error e => (x, .error e)

end SharedService

end SignOn.Jose
