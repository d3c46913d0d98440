import SignOn.Crypto.Aes

/-! # Authenticated encryption with AES in Galois/counter mode -/

namespace SignOn.Crypto.Gcm

abbrev Block := BitVec 128

def Block.ofBytes (bs : Bytes) : Block := BitVec.ofNat 128 (toNat bs)

def Block.bytes (x : Block) : Bytes := ofNat 16 x.toNat

/-- Multiplication by the polynomial `x`; the first bit is the constant term. -/
def shift (v : Block) : Block :=
  if v.getLsbD 0 then (v >>> 1) ^^^ (0xe1#128 <<< 120) else v >>> 1

/-- Adds up the multiples of `v` that the bits of `x` from number `128 - bits` on select. -/
def mulFrom (x : Block) : Nat → Block → Block → Block
  | 0, _, z => z
  | bits + 1, v, z => mulFrom x bits (shift v) (if x.getLsbD bits then z ^^^ v else z)

/-- The product in the field of 2^128 elements. -/
def mul (x y : Block) : Block := mulFrom x 128 y 0

/-- The bytes in blocks, the last one filled up with zeros. -/
def blocks (bs : Bytes) : List Block :=
  (chunks 16 bs).map fun c ↦ Block.ofBytes (padRight 16 c)

def ghash (h : Block) (xs : List Block) : Block := xs.foldl (fun y x ↦ mul (y ^^^ x) h) 0

/-- The block for a counter. -/
def counterBlock (iv : Bytes) (n : Nat) : Bytes := iv ++ ofNat 4 n

/-- As many bytes of key stream as the blocks make up, from counter `n` on. -/
def keyStream (keys : List Bytes) (iv : Bytes) (n : Nat) : Nat → Bytes
  | 0 => []
  | k + 1 => Aes.encryptBlock keys (counterBlock iv n) ++ keyStream keys iv (n + 1) k

/-- Encrypts and decrypts alike. -/
def crypt (keys : List Bytes) (iv : Bytes) (text : Bytes) : Bytes :=
  xor text (keyStream keys iv 2 ((text.length + 15) / 16))

/-- The tag of a ciphertext and its associated data. -/
def tag (keys : List Bytes) (iv associated ciphertext : Bytes) : Bytes :=
  let h := Block.ofBytes (Aes.encryptBlock keys (List.replicate 16 0))
  let lengths := Block.ofBytes (ofNat 8 (8 * associated.length) ++ ofNat 8 (8 * ciphertext.length))
  let s := ghash h (blocks associated ++ blocks ciphertext ++ [lengths])
  xor s.bytes (Aes.encryptBlock keys (counterBlock iv 1))

/-- A ciphertext and the tag that vouches for it. -/
structure Sealed where
  ciphertext : Bytes
  tag : Bytes
deriving DecidableEq, Repr

/-- Encrypts a text under a nonce of twelve bytes. -/
def encrypt (key iv associated text : Bytes) : Sealed :=
  let keys := Aes.roundKeys key
  let ciphertext := crypt keys iv text
  ⟨ciphertext, tag keys iv associated ciphertext⟩

/-- The text that was sealed, if the tag is right. -/
def decrypt? (key iv associated : Bytes) (s : Sealed) : Option Bytes :=
  let keys := Aes.roundKeys key
  if tag keys iv associated s.ciphertext = s.tag then some (crypt keys iv s.ciphertext) else none

/-- The longest text that one nonce is good for, in bytes. -/
def lengthLimit : Nat := Nat.pow 2 36

end SignOn.Crypto.Gcm
