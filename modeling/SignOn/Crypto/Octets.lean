import SignOn.Text.Utf8

/-! # Octet strings as numbers, in pieces and combined bit by bit -/

namespace SignOn.Crypto

/-- The number that bytes denote, the most significant first. -/
def toNat (bs : Bytes) : Nat := bs.foldl (fun n b ↦ n * 256 + b.toNat) 0

/-- The last `len` bytes of a number, the most significant first. -/
def ofNat : Nat → Nat → Bytes
  | 0, _ => []
  | len + 1, n => ofNat len (n / 256) ++ [UInt8.ofNat (n % 256)]

@[simp] theorem length_ofNat (len n : Nat) : (ofNat len n).length = len := by
  induction len generalizing n with
  | zero => rfl
  | succ len ih => simp [ofNat, ih]

/-- The number of bits that a number needs. -/
def bitLength (n : Nat) : Nat := if n = 0 then 0 else n.log2 + 1

/-- The number of bytes that a number needs. -/
def byteLength (n : Nat) : Nat := (bitLength n + 7) / 8

/-- Exclusive or, as far as both go. -/
def xor (xs ys : Bytes) : Bytes := List.zipWith (· ^^^ ·) xs ys

@[simp] theorem length_xor (xs ys : Bytes) : (xor xs ys).length = min xs.length ys.length := by
  simp [xor]

theorem xor_xor {xs ys : Bytes} (h : xs.length ≤ ys.length) : xor (xor xs ys) ys = xs := by
  induction xs generalizing ys with
  | nil => simp [xor]
  | cons x xs ih =>
    cases ys with
    | nil => simp at h
    | cons y ys =>
      have h' : xs.length ≤ ys.length := by simpa using h
      have hx : x ^^^ y ^^^ y = x := by
        rw [UInt8.xor_assoc, UInt8.xor_self, UInt8.xor_zero]
      simpa [xor, hx] using ih h'

/-- The pieces of length `n`, of which the last may be shorter. -/
def chunks {α : Type} (n : Nat) (xs : List α) : List (List α) :=
  if xs = [] ∨ n = 0 then [] else xs.take n :: chunks n (xs.drop n)
termination_by xs.length
decreasing_by
  rename_i h
  have : xs.length ≠ 0 := fun k ↦ h (.inl (List.length_eq_zero_iff.1 k))
  simp only [List.length_drop]
  omega

/-- The bytes with zeros behind them up to a length. -/
def padRight (len : Nat) (bs : Bytes) : Bytes := bs ++ List.replicate (len - bs.length) 0

end SignOn.Crypto
