import SignOn.Crypto.Gcm
import SignOn.Crypto.Rsa.Oaep
import SignOn.Entropy
import SignOn.Jose.Algorithm
import SignOn.Jose.Material
import SignOn.Text.Dotted

/-! # Encrypted tokens in compact form -/

namespace SignOn.Jose

open Crypto Json Text

/-- The protected header of an encrypted token. -/
structure EncryptionHeader where
  alg : KeyManagement
  enc : ContentCipher
  kid : Option String
  cty : Option String
deriving DecidableEq, Repr

namespace EncryptionHeader

def named {α : Type} (all : List α) (name : α → String) : List (String × α) :=
  all.map fun a ↦ (name a, a)

def record : Record EncryptionHeader :=
  EncryptionHeader.mk <$>
    .required "alg" (Decode.oneOf (named KeyManagement.all KeyManagement.name)) <*>
    .required "enc" (Decode.oneOf (named ContentCipher.all ContentCipher.name)) <*>
    .optional "kid" Decode.string <*> .optional "cty" Decode.string

def decode : Decoder EncryptionHeader := record.decode "JweHeader"

def toJson (h : EncryptionHeader) : Value :=
  .object ([("alg", .string h.alg.name), ("enc", .string h.enc.name)] ++
    Jwk.present [("kid", h.kid), ("cty", h.cty)])

/-- The header as the first segment of a token. -/
def segment (h : EncryptionHeader) : String := Base64Url.encode (utf8 h.toJson.text)

end EncryptionHeader

/-- An encrypted token, and how it was made. -/
structure EncryptedToken where
  compact : String
  keyId : String
  algorithm : KeyManagement
  method : ContentCipher
deriving DecidableEq, Repr

namespace ContentCipher

/-- Encrypts a text with a key of the right length, unless it is too long. The associated data may
be of any length here, although a cipher takes no more of it than of text. -/
def encrypt? (m : ContentCipher) (key nonce associated text : Bytes) : Option Gcm.Sealed :=
  if key.length = m.keyLength ∧ text.length ≤ Gcm.lengthLimit then
    some (Gcm.encrypt key nonce associated text)
  else none

/-- The text that was encrypted with the same key, nonce and associated data. A ciphertext may be as
long as a text here, although a cipher takes 16 bytes more of it, and bounds the associated data. -/
def decrypt? (m : ContentCipher) (key nonce associated : Bytes) (s : Gcm.Sealed) : Option Bytes :=
  if key.length = m.keyLength ∧ s.ciphertext.length ≤ Gcm.lengthLimit then
    Gcm.decrypt? key nonce associated s
  else none

end ContentCipher

/-- The length of a nonce and of a tag, in bytes. -/
def nonceLength : Nat := 12

def tagLength : Nat := 16

/-- A key that encrypts. A shared secret is itself the content key, of the one method that it is
long enough for. -/
inductive Encrypter where
  | rsa (kid : String) (key : Rsa.PublicKey)
  | direct (kid : String) (secret : Bytes) (method : ContentCipher)
deriving DecidableEq, Repr

namespace Encrypter

/-- The encrypter of a key, if it can encrypt. -/
def ofJwk (kid : String) (k : Jwk) : Except Error (Option Encrypter) :=
  match k.kind with
  | .rsa => do
    let key ← k.rsaPublicKey
    return some (.rsa kid key)
  | .octets => do
    let secret ← k.sharedSecret
    return (ContentCipher.ofKeyLength? secret.length).map (.direct kid secret)
  | .ellipticCurve | .octetPair | .other _ => .ok none

def kid : Encrypter → String
  | .rsa kid _ | .direct kid _ _ => kid

def algorithms : Encrypter → List KeyManagement
  | .rsa _ _ => [.rsaOaep256]
  | .direct _ _ _ => [.direct]

def methods : Encrypter → List ContentCipher
  | .rsa _ _ => ContentCipher.all
  | .direct _ _ method => [method]

/-- What is used when nothing else is asked for. -/
def preferred : Encrypter → KeyManagement × ContentCipher
  | .rsa _ _ => (.rsaOaep256, .a256gcm)
  | .direct _ _ method => (.direct, method)

/-- The content key, and the form in which it is sent along. -/
def contentKey (x : Encrypter) (r : Entropy) (method : ContentCipher) :
    Except Error (Bytes × Bytes) :=
  match x with
  | .rsa kid key =>
    let content := (r.contentKey method.keyLength).toList
    match Rsa.Oaep.wrap? key r.seed.toList content with
    | some wrapped => .ok (content, wrapped)
    | none => .error (.encryptionFailed kid "message too long")
  | .direct _ secret _ => .ok (secret, [])

/-- The segments of a token, one behind the other with dots between them. -/
def compact (header : String) (wrapped nonce : Bytes) (s : Gcm.Sealed) : String :=
  Dotted.join [header, Base64Url.encode wrapped, Base64Url.encode nonce,
    Base64Url.encode s.ciphertext, Base64Url.encode s.tag]

def encrypt (x : Encrypter) (r : Entropy) (plaintext : Bytes) (algorithm : KeyManagement)
    (method : ContentCipher) (contentType : Option String) : Except Error EncryptedToken :=
  if algorithm ∉ x.algorithms then .error (.unsupportedAlgorithm algorithm.name (some x.kid))
  else if method ∉ x.methods then .error (.unsupportedAlgorithm method.name (some x.kid))
  else do
    let (key, wrapped) ← x.contentKey r method
    let header : EncryptionHeader := ⟨algorithm, method, some x.kid, contentType⟩
    match method.encrypt? key r.nonce.toList (utf8 header.segment) plaintext with
    | some s =>
      return ⟨compact header.segment wrapped r.nonce.toList s, x.kid, algorithm, method⟩
    | none => .error (.encryptionFailed x.kid "content encryption failed")

def describe : Encrypter → String
  | .rsa kid _ => "Rsa \x7b kid: " ++ quote kid ++ ", .. \x7d"
  | .direct kid _ method =>
    "Direct \x7b kid: " ++ quote kid ++ ", method: " ++ method.describe ++ ", .. \x7d"

end Encrypter

/-- Why a text does not decrypt. -/
inductive DecryptionFault where
  | segments
  | encoding (part : String)
  | header
  | cannotUnwrap (algorithm : KeyManagement)
  | cannotDecrypt (method : ContentCipher)
  | unwrap
  | surplusKey
  | keyLength
  | nonceLength
  | tagLength
  | authentication
deriving DecidableEq, Repr

def DecryptionFault.message : DecryptionFault → String
  | .segments => "expected five compact segments"
  | .encoding part => part ++ " is not base64url"
  | .header => "unsupported or malformed protected header"
  | .cannotUnwrap algorithm => "key cannot unwrap '" ++ algorithm.name ++ "'"
  | .cannotDecrypt method => "key cannot decrypt '" ++ method.name ++ "'"
  | .unwrap => "key unwrap failed"
  | .surplusKey => "direct encryption carries no encrypted key"
  | .keyLength => "content key length does not match method"
  | .nonceLength => "iv must be 96 bits"
  | .tagLength => "tag must be 128 bits"
  | .authentication => "authentication failed"

/-- A key that decrypts. -/
inductive Decrypter where
  | rsa (kid : String) (key : Rsa.PrivateKey)
  | direct (kid : String) (secret : Bytes) (method : ContentCipher)
deriving DecidableEq, Repr

namespace Decrypter

/-- The decrypter of a key, if it can decrypt. -/
def ofJwk (kid : String) (k : Jwk) : Except Failure (Option Decrypter) :=
  match k.kind with
  | .rsa => do
    let key ← k.rsaPrivateKey?
    return key.map (.rsa kid)
  | .octets => do
    let secret ← k.sharedSecret
    return (ContentCipher.ofKeyLength? secret.length).map (.direct kid secret)
  | .ellipticCurve | .octetPair | .other _ => .ok none

def kid : Decrypter → String
  | .rsa kid _ | .direct kid _ _ => kid

def algorithms : Decrypter → List KeyManagement
  | .rsa _ _ => [.rsaOaep256]
  | .direct _ _ _ => [.direct]

def methods : Decrypter → List ContentCipher
  | .rsa _ _ => ContentCipher.all
  | .direct _ _ method => [method]

/-- The bytes of a segment that is called `part` in errors. -/
def bytesOf (part segment : String) : Except DecryptionFault Bytes :=
  match Base64Url.decode? segment with
  | some bs => .ok bs
  | none => .error (.encoding part)

/-- The content key that a token was encrypted with. -/
def contentKey (x : Decrypter) (wrapped : Bytes) : Except DecryptionFault Bytes :=
  match x with
  | .rsa _ key =>
    match Rsa.Oaep.unwrap? key wrapped with
    | some content => .ok content
    | none => .error .unwrap
  | .direct _ secret _ => if wrapped = [] then .ok secret else .error .surplusKey

/-- Decrypts the segments of a token. -/
def decryptSegments (x : Decrypter) (header wrapped nonce ciphertext tag : String) :
    Except DecryptionFault Bytes := do
  let headerBytes ← bytesOf "header" header
  let h ←
    match EncryptionHeader.decode.runBytes headerBytes with
    | .ok h => pure h
    | .error _ => .error .header
  if h.alg ∉ x.algorithms then .error (.cannotUnwrap h.alg)
  if h.enc ∉ x.methods then .error (.cannotDecrypt h.enc)
  let wrappedBytes ← bytesOf "encrypted key" wrapped
  let key ← x.contentKey wrappedBytes
  if key.length ≠ h.enc.keyLength then .error .keyLength
  let nonceBytes ← bytesOf "iv" nonce
  if nonceBytes.length ≠ Jose.nonceLength then .error .nonceLength
  let tagBytes ← bytesOf "tag" tag
  if tagBytes.length ≠ Jose.tagLength then .error .tagLength
  let ciphertextBytes ← bytesOf "ciphertext" ciphertext
  match h.enc.decrypt? key nonceBytes (utf8 header) ⟨ciphertextBytes, tagBytes⟩ with
  | some plaintext => return plaintext
  | none => .error .authentication

def decrypt (x : Decrypter) (token : String) : Except Error Bytes :=
  let result : Except DecryptionFault Bytes :=
    match Dotted.split token with
    | [header, wrapped, nonce, ciphertext, tag] =>
      x.decryptSegments header wrapped nonce ciphertext tag
    | _ => .error .segments
  match result with
  | .ok plaintext => .ok plaintext
  | .error fault => .error (.decryptionFailed x.kid fault.message)

def describe : Decrypter → String
  | .rsa kid _ => "Rsa \x7b kid: " ++ quote kid ++ ", .. \x7d"
  | .direct kid _ method =>
    "Direct \x7b kid: " ++ quote kid ++ ", method: " ++ method.describe ++ ", .. \x7d"

end Decrypter

end SignOn.Jose
