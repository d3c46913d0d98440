import SignOn.Crypto.Octets

/-! # The AES block cipher -/

namespace SignOn.Crypto.Aes

/-- Multiplication by the polynomial `x` in the field of 256 elements. -/
def double (b : UInt8) : UInt8 :=
  if b &&& 0x80 = 0 then b <<< 1 else (b <<< 1) ^^^ 0x1b

/-- The product of two field elements; the number counts the bits of the second one. -/
def mul : Nat → UInt8 → UInt8 → UInt8
  | 0, _, _ => 0
  | bits + 1, a, b => (if b &&& 1 = 0 then 0 else a) ^^^ mul bits (double a) (b >>> 1)

def power (a : UInt8) : Nat → UInt8
  | 0 => 1
  | k + 1 => mul 8 a (power a k)

/-- The inverse in the field, which for zero is zero. -/
def inverse (a : UInt8) : UInt8 := power a 254

def rotateLeft (b : UInt8) (k : UInt8) : UInt8 := (b <<< k) ||| (b >>> (8 - k))

/-- The substitution of a byte: its inverse under an affine map over the bits. -/
def substituteSlow (a : UInt8) : UInt8 :=
  let b := inverse a
  b ^^^ rotateLeft b 1 ^^^ rotateLeft b 2 ^^^ rotateLeft b 3 ^^^ rotateLeft b 4 ^^^ 0x63

def substitutions : Vector UInt8 256 := Vector.ofFn fun i ↦ substituteSlow (UInt8.ofNat i)

def substitute (b : UInt8) : UInt8 := substitutions.get ⟨b.toNat, b.toNat_lt⟩

/-- One step of the key schedule: the word that is `words` places behind the first of `recent`,
which holds the last `words` words. -/
def nextWord (words index : Nat) (constant : UInt8) (recent : List Bytes) : Bytes :=
  let last := recent.getLastD []
  let mixed :=
    if index % words = 0 then
      xor ((last.drop 1 ++ last.take 1).map substitute) [constant, 0, 0, 0]
    else if words > 6 ∧ index % words = 4 then last.map substitute
    else last
  xor (recent.headD []) mixed

/-- The words of the key schedule from number `index` on. -/
def schedule (words : Nat) : Nat → Nat → UInt8 → List Bytes → List Bytes
  | 0, _, _, _ => []
  | more + 1, index, constant, recent =>
    let word := nextWord words index constant recent
    let constant := if index % words = 0 then double constant else constant
    word :: schedule words more (index + 1) constant (recent.drop 1 ++ [word])

/-- The round keys of a key of sixteen or thirty-two bytes. -/
def roundKeys (key : Bytes) : List Bytes :=
  let start := chunks 4 key
  let words := start.length
  let all := start ++ schedule words (4 * (words + 7) - words) words 1 start
  (chunks 4 all).map List.flatten

/-- Rotates the rows of a state whose columns stand one behind the other. -/
def shiftRows (s : Bytes) : Bytes :=
  [0, 5, 10, 15, 4, 9, 14, 3, 8, 13, 2, 7, 12, 1, 6, 11].map fun i ↦ s.getD i 0

def mixColumn : Bytes → Bytes
  | [a, b, c, d] =>
    let all := a ^^^ b ^^^ c ^^^ d
    [a ^^^ all ^^^ double (a ^^^ b), b ^^^ all ^^^ double (b ^^^ c),
      c ^^^ all ^^^ double (c ^^^ d), d ^^^ all ^^^ double (d ^^^ a)]
  | other => other

def mixColumns (s : Bytes) : Bytes := (chunks 4 s).flatMap mixColumn

/-- All rounds but the first key addition; the last one does not mix columns. -/
def rounds (s : Bytes) : List Bytes → Bytes
  | [] => s
  | [key] => xor (shiftRows (s.map substitute)) key
  | key :: keys => rounds (xor (mixColumns (shiftRows (s.map substitute))) key) keys

/-- Encrypts a block of sixteen bytes. -/
def encryptBlock (keys : List Bytes) (block : Bytes) : Bytes :=
  match keys with
  | [] => block
  | key :: keys => rounds (xor block key) keys

end SignOn.Crypto.Aes
