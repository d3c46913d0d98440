import SignOn.Crypto.Octets

/-! # The SHA-2 family of hash functions, plain and keyed -/

namespace SignOn.Crypto

inductive Hash where
  | sha256
  | sha384
  | sha512
deriving DecidableEq, Repr

namespace Sha2

/-- The first 64 bits of the fractional parts of the cube roots of the first eighty primes. -/
def roots : List Nat :=
  [0x428a2f98d728ae22, 0x7137449123ef65cd, 0xb5c0fbcfec4d3b2f, 0xe9b5dba58189dbbc,
   0x3956c25bf348b538, 0x59f111f1b605d019, 0x923f82a4af194f9b, 0xab1c5ed5da6d8118,
   0xd807aa98a3030242, 0x12835b0145706fbe, 0x243185be4ee4b28c, 0x550c7dc3d5ffb4e2,
   0x72be5d74f27b896f, 0x80deb1fe3b1696b1, 0x9bdc06a725c71235, 0xc19bf174cf692694,
   0xe49b69c19ef14ad2, 0xefbe4786384f25e3, 0x0fc19dc68b8cd5b5, 0x240ca1cc77ac9c65,
   0x2de92c6f592b0275, 0x4a7484aa6ea6e483, 0x5cb0a9dcbd41fbd4, 0x76f988da831153b5,
   0x983e5152ee66dfab, 0xa831c66d2db43210, 0xb00327c898fb213f, 0xbf597fc7beef0ee4,
   0xc6e00bf33da88fc2, 0xd5a79147930aa725, 0x06ca6351e003826f, 0x142929670a0e6e70,
   0x27b70a8546d22ffc, 0x2e1b21385c26c926, 0x4d2c6dfc5ac42aed, 0x53380d139d95b3df,
   0x650a73548baf63de, 0x766a0abb3c77b2a8, 0x81c2c92e47edaee6, 0x92722c851482353b,
   0xa2bfe8a14cf10364, 0xa81a664bbc423001, 0xc24b8b70d0f89791, 0xc76c51a30654be30,
   0xd192e819d6ef5218, 0xd69906245565a910, 0xf40e35855771202a, 0x106aa07032bbd1b8,
   0x19a4c116b8d2d0c8, 0x1e376c085141ab53, 0x2748774cdf8eeb99, 0x34b0bcb5e19b48a8,
   0x391c0cb3c5c95a63, 0x4ed8aa4ae3418acb, 0x5b9cca4f7763e373, 0x682e6ff3d6b2b8a3,
   0x748f82ee5defb2fc, 0x78a5636f43172f60, 0x84c87814a1f0ab72, 0x8cc702081a6439ec,
   0x90befffa23631e28, 0xa4506cebde82bde9, 0xbef9a3f7b2c67915, 0xc67178f2e372532b,
   0xca273eceea26619c, 0xd186b8c721c0c207, 0xeada7dd6cde0eb1e, 0xf57d4f7fee6ed178,
   0x06f067aa72176fba, 0x0a637dc5a2c898a6, 0x113f9804bef90dae, 0x1b710b35131c471b,
   0x28db77f523047d84, 0x32caab7b40c72493, 0x3c9ebe0a15c9bebc, 0x431d67c49c100d4c,
   0x4cc5d4becb3e42b6, 0x597f299cfc657e2a, 0x5fcb6fab3ad6faec, 0x6c44198c4a475817]

/-- The places by which three copies of a word are rotated, and whether the third is shifted
instead. -/
structure Mixer where
  first : Nat
  second : Nat
  third : Nat
  shifts : Bool
deriving DecidableEq, Repr

/-- What tells the two halves of the family apart. -/
structure Words where
  width : Nat
  rounds : Nat
  spread0 : Mixer
  spread1 : Mixer
  extend0 : Mixer
  extend1 : Mixer
deriving DecidableEq, Repr

def words32 : Words where
  width := 32
  rounds := 64
  spread0 := ⟨2, 13, 22, false⟩
  spread1 := ⟨6, 11, 25, false⟩
  extend0 := ⟨7, 18, 3, true⟩
  extend1 := ⟨17, 19, 10, true⟩

def words64 : Words where
  width := 64
  rounds := 80
  spread0 := ⟨28, 34, 39, false⟩
  spread1 := ⟨14, 18, 41, false⟩
  extend0 := ⟨1, 8, 7, true⟩
  extend1 := ⟨19, 61, 6, true⟩

namespace Mixer

def apply {w : Nat} (m : Mixer) (x : BitVec w) : BitVec w :=
  x.rotateRight m.first ^^^ x.rotateRight m.second ^^^
    if m.shifts then x >>> m.third else x.rotateRight m.third

end Mixer

/-- The eight words that are carried from block to block. -/
structure State (w : Nat) where
  a : BitVec w
  b : BitVec w
  c : BitVec w
  d : BitVec w
  e : BitVec w
  f : BitVec w
  g : BitVec w
  h : BitVec w
deriving DecidableEq, Repr

namespace State

variable {w : Nat}

def add (s t : State w) : State w :=
  ⟨s.a + t.a, s.b + t.b, s.c + t.c, s.d + t.d, s.e + t.e, s.f + t.f, s.g + t.g, s.h + t.h⟩

def words (s : State w) : List (BitVec w) := [s.a, s.b, s.c, s.d, s.e, s.f, s.g, s.h]

end State

namespace Words

variable (p : Words)

/-- The constant of every round: the leading bits of a root. -/
def constants : List (BitVec p.width) :=
  (roots.take p.rounds).map fun k ↦ BitVec.ofNat p.width (k >>> (64 - p.width))

/-- One round, with its constant and its word of the schedule. -/
def round (s : State p.width) (k x : BitVec p.width) : State p.width :=
  let t1 := s.h + p.spread1.apply s.e + ((s.e &&& s.f) ^^^ (~~~s.e &&& s.g)) + k + x
  let t2 := p.spread0.apply s.a + ((s.a &&& s.b) ^^^ (s.a &&& s.c) ^^^ (s.b &&& s.c))
  ⟨t1 + t2, s.a, s.b, s.c, s.d + t1, s.e, s.f, s.g⟩

/-- Moves the window of sixteen scheduled words on by one. -/
def slide (window : List (BitVec p.width)) : List (BitVec p.width) :=
  let x := window.getD 0 0 + p.extend0.apply (window.getD 1 0) + window.getD 9 0 +
    p.extend1.apply (window.getD 14 0)
  window.drop 1 ++ [x]

def run (s : State p.width) (window : List (BitVec p.width)) :
    List (BitVec p.width) → State p.width
  | [] => s
  | k :: ks => run (p.round s k (window.getD 0 0)) (p.slide window) ks

def wordBytes : Nat := p.width / 8

/-- A block has sixteen words. -/
def blockBytes : Nat := 16 * p.wordBytes

def compress (s : State p.width) (block : Bytes) : State p.width :=
  let window := (chunks p.wordBytes block).map fun bs ↦ BitVec.ofNat p.width (toNat bs)
  s.add (p.run s window p.constants)

/-- The message, a one bit, zeros, and the length in bits in the last two words of a block. -/
def padded (message : Bytes) : Bytes :=
  let tail := 2 * p.wordBytes
  let used := (message.length + 1 + tail) % p.blockBytes
  let zeros := (p.blockBytes - used) % p.blockBytes
  message ++ 0x80 :: List.replicate zeros 0 ++ ofNat tail (8 * message.length)

def hash (start : State p.width) (message : Bytes) : Bytes :=
  let s := (chunks p.blockBytes (p.padded message)).foldl p.compress start
  s.words.flatMap fun x ↦ ofNat p.wordBytes x.toNat

end Words

def start256 : State 32 :=
  ⟨0x6a09e667, 0xbb67ae85, 0x3c6ef372, 0xa54ff53a,
    0x510e527f, 0x9b05688c, 0x1f83d9ab, 0x5be0cd19⟩

def start384 : State 64 :=
  ⟨0xcbbb9d5dc1059ed8, 0x629a292a367cd507, 0x9159015a3070dd17, 0x152fecd8f70e5939,
    0x67332667ffc00b31, 0x8eb44a8768581511, 0xdb0c2e0d64f98fa7, 0x47b5481dbefa4fa4⟩

def start512 : State 64 :=
  ⟨0x6a09e667f3bcc908, 0xbb67ae8584caa73b, 0x3c6ef372fe94f82b, 0xa54ff53a5f1d36f1,
    0x510e527fade682d1, 0x9b05688c2b3e6c1f, 0x1f83d9abfb41bd6b, 0x5be0cd19137e2179⟩

end Sha2

namespace Hash

/-- The length of a digest in bytes. -/
def length : Hash → Nat
  | .sha256 => 32
  | .sha384 => 48
  | .sha512 => 64

/-- The length of the blocks that a message is cut into, in bytes. -/
def blockLength : Hash → Nat
  | .sha256 => 64
  | .sha384 | .sha512 => 128

def digest : Hash → Bytes → Bytes
  | .sha256, message => Sha2.words32.hash Sha2.start256 message
  | .sha384, message => (Sha2.words64.hash Sha2.start384 message).take 48
  | .sha512, message => Sha2.words64.hash Sha2.start512 message

/-- The key as one block: a longer key is hashed first. -/
def keyBlock (h : Hash) (key : Bytes) : Bytes :=
  padRight h.blockLength (if h.blockLength < key.length then h.digest key else key)

/-- The authentication code of a message. -/
def hmac (h : Hash) (key message : Bytes) : Bytes :=
  let block := h.keyBlock key
  h.digest (block.map (· ^^^ 0x5c) ++ h.digest (block.map (· ^^^ 0x36) ++ message))

end Hash

end SignOn.Crypto
