import SignOn.Crypto.Rsa.Signature
import SignOn.Jose.Algorithm
import SignOn.Jose.EmbeddedKey
import SignOn.Jose.Material
import SignOn.Text.Dotted

/-! # Verifying signed tokens -/

namespace SignOn.Jose

open Crypto Json Text

/-- What matters in the header of a signed token. -/
structure SignatureHeader where
  alg : HeaderAlgorithm
  kid : Option String
deriving DecidableEq, Repr

namespace SignatureHeader

def record : Record SignatureHeader :=
  (fun _ alg _ _ _ kid _ _ _ _ ↦ ⟨alg, kid⟩) <$>
    .optional "typ" Decode.string <*>
    .required "alg" (Decode.oneOf (HeaderAlgorithm.all.map fun a ↦ (a.name, a))) <*>
    .optional "cty" Decode.string <*> .optional "jku" Decode.string <*>
    .optional "jwk" EmbeddedKey.decode <*> .optional "kid" Decode.string <*>
    .optional "x5u" Decode.string <*> .optional "x5c" (Decode.sequence Decode.string) <*>
    .optional "x5t" Decode.string <*> .optional "x5t#S256" Decode.string

def decode : Decoder SignatureHeader := record.decode "Header"

end SignatureHeader

/-- Why a token does not verify. -/
inductive VerificationFault where
  | form
  | encoding (e : Base64Url.Error)
  | json (e : DecodeError)
  | unsupported (e : Error)
  | notAllowed (a : SignatureAlgorithm)
  | signature
deriving DecidableEq, Repr

def VerificationFault.message : VerificationFault → String
  | .form => "InvalidToken"
  | .encoding e => "Base64 error: " ++ e.message
  | .json e => "JSON error: " ++ e.message
  | .unsupported e => e.message
  | .notAllowed a => "algorithm " ++ a.name ++ " not allowed for this key"
  | .signature => "InvalidSignature"

/-- The parts of a signed token: what is signed, its header and payload, and the signature. The
header is all that stands in front of the last two dots. -/
structure SignedParts where
  input : String
  header : String
  payload : String
  signature : String
deriving DecidableEq, Repr

namespace SignedParts

def ofToken (token : String) : Except VerificationFault SignedParts :=
  match Dotted.splitLast? token with
  | none => .error .form
  | some (input, signature) =>
    match Dotted.splitLast? input with
    | none => .error .form
    | some (header, payload) => .ok ⟨input, header, payload, signature⟩

def decodeSegment (segment : String) : Except VerificationFault Bytes :=
  match Base64Url.decode segment with
  | .ok bs => .ok bs
  | .error e => .error (.encoding e)

def decodeJson {α : Type} (d : Decoder α) (bs : Bytes) : Except VerificationFault α :=
  match d.runBytes bs with
  | .ok a => .ok a
  | .error e => .error (.json e)

def decodeHeader (p : SignedParts) : Except VerificationFault SignatureHeader := do
  let bs ← decodeSegment p.header
  decodeJson SignatureHeader.decode bs

end SignedParts

/-- The header of a token. -/
def SignatureHeader.ofToken (token : String) : Except VerificationFault SignatureHeader := do
  let p ← SignedParts.ofToken token
  p.decodeHeader

namespace RegisteredClaims

/-- A time may have any type and need not denote anything, but nothing may stand in an array or an
object, and where it cannot be read there has to be its end. -/
def time : Decoder Unit := fun _ n ↦
  match n with
  | .array .done | .object .done => .ok ()
  | .array _ | .object _ | .broken | .string (.error .surrogate) => .error .malformed
  | .number x => if x.outgrown then .error .malformed else .ok ()
  | _ => .ok ()

/-- A subject may have any type but array and object. -/
def subject : Decoder Unit := fun _ n ↦
  match n with
  | .array _ | .object _ | .broken | .string (.error _) => .error .malformed
  | _ => .ok ()

def anything : Decoder Unit := fun _ n ↦ Record.passOver n

/-- The claims with a meaning of their own, which must not come twice. Their values are not looked
at. -/
def record : Record Unit :=
  (fun _ _ _ _ _ ↦ ()) <$> .defaulted "exp" time () <*> .defaulted "nbf" time () <*>
    .optional "sub" subject <*> .optional "iss" anything <*> .optional "aud" anything

def decode : Decoder Unit := record.decode "ClaimsForValidation"

end RegisteredClaims

/-- What a signature is checked with. -/
inductive CheckingKey where
  | rsa (key : Rsa.VerifyingKey)
  | secret (bytes : Bytes)
deriving DecidableEq, Repr

namespace CheckingKey

/-- Whether a text is the signature of a message. The code of a shared secret is compared as
text. -/
def check (k : CheckingKey) (a : SignatureAlgorithm) (message : Bytes) (signature : String) :
    Except VerificationFault Unit :=
  match k, a.padding? with
  | .rsa key, some padding => do
    let bs ← SignedParts.decodeSegment signature
    if key.verify padding a.hash message bs then .ok () else .error .signature
  | .secret bytes, _ =>
    if Base64Url.encode (a.hash.hmac bytes message) = signature then .ok () else .error .signature
  | .rsa _, none => .error .signature

end CheckingKey

/-- A key that verifies. -/
structure Verifier where
  kid : String
  key : CheckingKey
  algorithms : List SignatureAlgorithm
deriving DecidableEq, Repr

namespace Verifier

/-- The bytes of a member whose padding is not passed over. -/
def strictMember (kid : String) : Option String → Except Error Bytes
  | none => .error (.invalidKeyMaterial kid "missing 'n' or 'e'")
  | some s =>
    match Base64Url.decode s with
    | .ok bs => .ok bs
    | .error e => .error (.invalidKeyMaterial kid (VerificationFault.message (.encoding e)))

/-- The verifier of a key, if it can verify. -/
def ofJwk (kid : String) (k : Jwk) : Except Error (Option Verifier) :=
  match k.kind with
  | .rsa => do
    let _ ← k.rsaPublicKey
    let n ← strictMember kid k.n
    let e ← strictMember kid k.e
    return some ⟨kid, .rsa ⟨n, e⟩, SignatureAlgorithm.rsa⟩
  | .octets => do
    let secret ← k.sharedSecret
    match SignatureAlgorithm.forSecretLength secret.length with
    | [] => return none
    | listed => return some ⟨kid, .secret secret, listed⟩
  | .ellipticCurve | .octetPair | .other _ => .ok none

/-- Checks the parts of a token and decodes its payload. -/
def open? {α : Type} (x : Verifier) (d : Decoder α) (token : String) :
    Except VerificationFault α := do
  let p ← SignedParts.ofToken token
  let h ← p.decodeHeader
  let a ←
    match h.alg.toSupported with
    | .ok a => pure a
    | .error e => .error (.unsupported e)
  if a ∉ x.algorithms then .error (.notAllowed a)
  x.key.check a (utf8 p.input) p.signature
  let payload ← SignedParts.decodeSegment p.payload
  let claims ← SignedParts.decodeJson d payload
  SignedParts.decodeJson RegisteredClaims.decode payload
  return claims

def verify {α : Type} (x : Verifier) (d : Decoder α) (token : String) : Except Error α :=
  match x.open? d token with
  | .ok claims => .ok claims
  | .error fault => .error (.verificationFailed x.kid fault.message)

def describe (x : Verifier) : String :=
  "Verifier \x7b kid: " ++ quote x.kid ++ ", algorithms: " ++
    bracket (x.algorithms.map SignatureAlgorithm.name) ++ ", .. \x7d"

end Verifier

end SignOn.Jose
