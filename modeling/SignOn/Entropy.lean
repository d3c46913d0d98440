import SignOn.Text.Utf8
import SignOn.Text.Quoted

/-! # Random choices, made before they are needed -/

namespace SignOn

/-- The random bytes that one request may use. -/
structure Entropy where
  contentKey : (n : Nat) → Vector UInt8 n
  nonce : Vector UInt8 12
  seed : Vector UInt8 32
  salt : (n : Nat) → Vector UInt8 n
  identifier : Vector UInt8 16

namespace Entropy

/-- Two lower-case hexadecimal digits. -/
def hexByte (b : UInt8) : List Char := [Nat.digitChar (b.toNat / 16), Nat.digitChar (b.toNat % 16)]

def hex (bs : Bytes) : List Char := bs.flatMap hexByte

/-- A random identifier in the form of a version 4 UUID. -/
def uuid (r : Entropy) : String :=
  let bs := r.identifier.toList
  let bs := bs.mapIdx fun i b ↦
    if i = 6 then (b &&& 0x0f) ||| 0x40 else if i = 8 then (b &&& 0x3f) ||| 0x80 else b
  let part (start len : Nat) := hex ((bs.drop start).take len)
  String.ofList (part 0 4 ++ '-' :: part 4 2 ++ '-' :: part 6 2 ++ '-' :: part 8 2 ++
    '-' :: part 10 6)

end Entropy

end SignOn
