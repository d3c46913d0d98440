import SignOn.Crypto.Rsa.Oaep

/-! # RSA signatures, with the deterministic and with the probabilistic padding -/

namespace SignOn.Crypto.Rsa

inductive Padding where
  /-- PKCS #1 version 1.5 -/
  | fixed
  /-- With a salt as long as the digest. -/
  | salted
deriving DecidableEq, Repr

/-- The encoding of a hash function's name and of the start of its digest. -/
def digestHeader (h : Hash) : Bytes :=
  let (id, size) : UInt8 × UInt8 :=
    match h with
    | .sha256 => (1, 32)
    | .sha384 => (2, 48)
    | .sha512 => (3, 64)
  [0x30, 17 + size, 0x30, 0x0d, 0x06, 0x09, 0x60, 0x86, 0x48, 0x01, 0x65, 0x03, 0x04, 0x02, id,
    0x05, 0x00, 0x04, size]

/-- The fixed encoding of a message in `size` bytes. -/
def encodeFixed (h : Hash) (size : Nat) (message : Bytes) : Bytes :=
  let info := digestHeader h ++ h.digest message
  0 :: 1 :: List.replicate (size - info.length - 3) 0xff ++ 0 :: info

/-- The digest of a message's digest and a salt. -/
def saltedDigest (h : Hash) (message salt : Bytes) : Bytes :=
  h.digest (List.replicate 8 0 ++ h.digest message ++ salt)

/-- Keeps the last `bits` bits of a string of bytes. -/
def keepBits (bits : Nat) (bs : Bytes) : Bytes := ofNat bs.length (toNat bs % Nat.pow 2 bits)

/-- The salted encoding of a message as a number of `bits` bits. -/
def encodeSalted (h : Hash) (bits : Nat) (message salt : Bytes) : Bytes :=
  let size := (bits + 7) / 8
  let digest := saltedDigest h message salt
  let block := List.replicate (size - 2 * h.length - 2) 0 ++ 1 :: salt
  let masked := xor block (mask h digest block.length)
  keepBits (bits - 8 * (h.length + 1)) masked ++ digest ++ [0xbc]

/-- Whether an encoded number of `bits` bits fits a message. -/
def fitsSalted (h : Hash) (bits : Nat) (message encoded : Bytes) : Bool :=
  let size := (bits + 7) / 8
  let zeros := size - 2 * h.length - 2
  let masked := encoded.take (size - h.length - 1)
  let digest := (encoded.drop (size - h.length - 1)).take h.length
  let block := keepBits (bits - 8 * (h.length + 1)) (xor masked (mask h digest masked.length))
  let salt := block.drop (zeros + 1)
  2 * h.length + 2 ≤ size && encoded.length = size && encoded.drop (size - 1) = [0xbc] &&
    toNat encoded < Nat.pow 2 bits && block.take zeros = List.replicate zeros 0 &&
    (block.drop zeros).take 1 = [1] && digest = saltedDigest h message salt

/-- Why a key is not used to sign. -/
inductive SignError where
  | unexpected
  | invalidComponent
  | tooSmall
  | tooLarge
  | inconsistent
  | oddLength
  /-- The signature does not verify. -/
  | failed
deriving DecidableEq, Repr

def SignError.message : SignError → String
  | .unexpected => "RSA key invalid: UnexpectedError"
  | .invalidComponent => "RSA key invalid: InvalidComponent"
  | .tooSmall => "RSA key invalid: TooSmall"
  | .tooLarge => "RSA key invalid: TooLarge"
  | .inconsistent => "RSA key invalid: InconsistentComponents"
  | .oddLength => "RSA key invalid: PrivateModulusLenNotMultipleOf512Bits"
  | .failed => "RsaFailedSigning"

namespace PrivateKey

/-- No number that fits so many bytes is a modulus. -/
def shortBytes : Nat := 24

/-- What is asked of one factor of a key that signs. -/
def checkFactor (half p : Nat) : Except SignError Unit :=
  if byteLength p ≤ shortBytes then .error .unexpected
  else if bitLength p ≠ half then .error .inconsistent
  else if half % 512 ≠ 0 then .error .oddLength
  else .ok ()

/-- What is asked of a key that signs. -/
def checkSigning (k : PrivateKey) : Except SignError Unit := do
  let bits := bitLength k.modulus
  let half := (bits + 1) / 2
  if byteLength k.modulus ≤ shortBytes then .error .unexpected
  if k.modulus % 2 = 0 then .error .invalidComponent
  if 8 * byteLength k.modulus < 2048 then .error .tooSmall
  if PublicKey.maxBits < bits then .error .tooLarge
  if k.exponent < 65537 then .error .tooSmall
  checkFactor half k.factor1
  checkFactor half k.factor2
  if bitLength k.secret ≤ half ∨ k.modulus ≤ k.secret then .error .inconsistent

/-- The encoding of a message that is signed. -/
def encoding (k : PrivateKey) (padding : Padding) (h : Hash) (salt message : Bytes) : Bytes :=
  match padding with
  | .fixed => encodeFixed h k.toPublic.size message
  | .salted => encodeSalted h (bitLength k.modulus - 1) message salt

/-- Signs a message. -/
def sign (k : PrivateKey) (padding : Padding) (h : Hash) (salt message : Bytes) :
    Except SignError Bytes := do
  k.checkSigning
  match k.undo? (toNat (k.encoding padding h salt message)) with
  | some s => .ok (ofNat k.toPublic.size s)
  | none => .error .failed

end PrivateKey

/-- A public key as the bytes of its numbers. -/
structure VerifyingKey where
  modulus : Bytes
  exponent : Bytes
deriving DecidableEq, Repr

namespace VerifyingKey

def toPublic (k : VerifyingKey) : PublicKey := ⟨toNat k.modulus, toNat k.exponent⟩

/-- What is asked of a key that verifies: no leading zeros, a length from 2048 up to 8192 bits, and
an odd exponent from 3 up to 33 bits. -/
def Usable (k : VerifyingKey) : Prop :=
  let n := toNat k.modulus
  let e := toNat k.exponent
  k.modulus.head? ≠ some 0 ∧ k.exponent.head? ≠ some 0 ∧ 2048 ≤ 8 * byteLength n ∧
    bitLength n ≤ 8192 ∧ n % 2 = 1 ∧ 3 ≤ e ∧ e < Nat.pow 2 33 ∧ e % 2 = 1

instance (k : VerifyingKey) : Decidable k.Usable := inferInstanceAs (Decidable (_ ∧ _))

/-- Whether a signature of a message is valid. -/
def verify (k : VerifyingKey) (padding : Padding) (h : Hash) (message signature : Bytes) : Bool :=
  let key := k.toPublic
  let s := toNat signature
  if k.Usable ∧ signature.length = key.size ∧ s < key.modulus then
    let encoded := ofNat key.size (key.apply s)
    match padding with
    | .fixed => encoded = encodeFixed h key.size message
    | .salted =>
      let bits := bitLength key.modulus - 1
      if bits % 8 = 0 then encoded.take 1 = [0] && fitsSalted h bits message (encoded.drop 1)
      else fitsSalted h bits message encoded
  else false

end VerifyingKey

end SignOn.Crypto.Rsa
