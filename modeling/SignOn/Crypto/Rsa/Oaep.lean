import SignOn.Crypto.Rsa.Key
import SignOn.Crypto.Sha2

/-! # Wrapping of short messages by optimal asymmetric encryption padding

What is padded is masked with bytes that are drawn from a seed by hashing. The hash is SHA-256
throughout and the label is empty.
-/

namespace SignOn.Crypto.Rsa

/-- Digests of the seed with counters from `first` on. -/
def maskBlocks (h : Hash) (seed : Bytes) (first : Nat) : Nat → Bytes
  | 0 => []
  | k + 1 => h.digest (seed ++ ofNat 4 first) ++ maskBlocks h seed (first + 1) k

/-- A mask of `len` bytes. -/
def mask (h : Hash) (seed : Bytes) (len : Nat) : Bytes :=
  (maskBlocks h seed 0 ((len + h.length - 1) / h.length)).take len

namespace Oaep

def hash : Hash := .sha256

def labelDigest : Bytes := hash.digest []

/-- The padded message of `size` bytes. -/
def pad (size : Nat) (seed message : Bytes) : Bytes :=
  let zeros := size - message.length - 2 * hash.length - 2
  let block := labelDigest ++ List.replicate zeros 0 ++ 1 :: message
  let masked := xor block (mask hash seed block.length)
  0 :: xor seed (mask hash masked hash.length) ++ masked

/-- The message behind zeros and a one. -/
def afterOne : Bytes → Option Bytes
  | [] => none
  | b :: rest => if b = 0 then afterOne rest else if b = 1 then some rest else none

/-- The message of a padded one. -/
def unpad? (padded : Bytes) : Option Bytes :=
  if padded.length < 2 * hash.length + 2 then none
  else
    match padded with
    | 0 :: rest =>
      let masked := rest.drop hash.length
      let seed := xor (rest.take hash.length) (mask hash masked hash.length)
      let block := xor masked (mask hash seed masked.length)
      if block.take hash.length = labelDigest then afterOne (block.drop hash.length) else none
    | _ => none

/-- Wraps a message; one that leaves no room for the padding is too long. -/
def wrap? (k : PublicKey) (seed message : Bytes) : Option Bytes :=
  if k.size < message.length + 2 * hash.length + 2 then none
  else some (ofNat k.size (k.apply (toNat (pad k.size seed message))))

/-- Unwraps a message. Its wrapped form has as many bytes as the modulus. -/
def unwrap? (k : PrivateKey) (wrapped : Bytes) : Option Bytes :=
  if wrapped.length ≠ k.toPublic.size then none
  else do
    let m ← k.undo? (toNat wrapped)
    unpad? (ofNat k.toPublic.size m)

end Oaep

end SignOn.Crypto.Rsa
