import Mathlib.Data.List.Induction
import Mathlib.Tactic.Ring
import SignOn.Crypto.Octets

/-! # Numbers and the octets that denote them -/

namespace SignOn.Crypto

theorem toNat_concat (bs : Bytes) (b : UInt8) : toNat (bs ++ [b]) = toNat bs * 256 + b.toNat := by
  rw [toNat, List.foldl_append]
  rfl

theorem toNat_append (bs cs : Bytes) :
    toNat (bs ++ cs) = toNat bs * 256 ^ cs.length + toNat cs := by
  induction cs using List.reverseRecOn with
  | nil => simp [toNat]
  | append_singleton cs c ih =>
    rw [← List.append_assoc, toNat_concat, ih, toNat_concat, List.length_append,
      List.length_singleton, pow_succ]
    ring

theorem toNat_lt (bs : Bytes) : toNat bs < 256 ^ bs.length := by
  induction bs using List.reverseRecOn with
  | nil => decide
  | append_singleton bs b ih =>
    have hb := b.toNat_lt
    rw [toNat_concat, List.length_append, List.length_singleton, pow_succ]
    omega

/-- Octets at the front that are zero do not count. -/
theorem toNat_zero_cons (bs : Bytes) : toNat (0 :: bs) = toNat bs := rfl

theorem toNat_ofNat (len n : Nat) : toNat (ofNat len n) = n % 256 ^ len := by
  induction len generalizing n with
  | zero => rw [pow_zero, Nat.mod_one]; rfl
  | succ len ih =>
    have hlow : (UInt8.ofNat (n % 256)).toNat = n % 256 := by simp
    rw [ofNat, toNat_concat, ih, hlow, pow_succ', Nat.mod_mul]
    ring

theorem toNat_ofNat_of_lt {len n : Nat} (h : n < 256 ^ len) : toNat (ofNat len n) = n := by
  rw [toNat_ofNat, Nat.mod_eq_of_lt h]

/-- Octets are determined by their number and how many they are. -/
theorem ofNat_toNat (bs : Bytes) : ofNat bs.length (toNat bs) = bs := by
  induction bs using List.reverseRecOn with
  | nil => rfl
  | append_singleton bs b ih =>
    have hb := b.toNat_lt
    have hdiv : (toNat bs * 256 + b.toNat) / 256 = toNat bs := by omega
    have hmod : (toNat bs * 256 + b.toNat) % 256 = b.toNat := by omega
    rw [toNat_concat, List.length_append, List.length_singleton, ofNat, hdiv, hmod, ih,
      UInt8.ofNat_toNat]

theorem toNat_injective {bs cs : Bytes} (hlength : bs.length = cs.length)
    (h : toNat bs = toNat cs) : bs = cs := by
  rw [← ofNat_toNat bs, hlength, h, ofNat_toNat]

theorem toNat_cons (b : UInt8) (bs : Bytes) :
    toNat (b :: bs) = 2 ^ (8 * bs.length) * b.toNat + toNat bs := by
  have happend := toNat_append [b] bs
  have hpow : 256 ^ bs.length = 2 ^ (8 * bs.length) := by rw [pow_mul]; rfl
  rw [List.singleton_append, hpow] at happend
  rw [happend, Nat.mul_comm]
  simp [toNat]

/-- Exclusive or can be taken of the numbers instead of the octets. -/
theorem toNat_xor {xs ys : Bytes} (h : xs.length = ys.length) :
    toNat (xor xs ys) = toNat xs ^^^ toNat ys := by
  induction xs generalizing ys with
  | nil =>
    obtain rfl := List.length_eq_zero_iff.1 h.symm
    rfl
  | cons x xs ih =>
    cases ys with
    | nil => cases h
    | cons y ys =>
      have hlength : xs.length = ys.length := Nat.succ.inj h
      have hxs := toNat_lt xs
      have hys := toNat_lt ys
      have hxor := toNat_lt (xor xs ys)
      have hpow (n : Nat) : 256 ^ n = 2 ^ (8 * n) := by rw [pow_mul]; rfl
      have hxor' : (xor xs ys).length = ys.length := by rw [length_xor, hlength, Nat.min_self]
      rw [hpow] at hxs hys hxor
      rw [hlength] at hxs
      rw [hxor'] at hxor
      rw [show xor (x :: xs) (y :: ys) = (x ^^^ y) :: xor xs ys from rfl, toNat_cons, toNat_cons,
        toNat_cons, hxor', hlength]
      apply Nat.eq_of_testBit_eq
      intro i
      rw [Nat.testBit_xor, Nat.testBit_two_pow_mul_add _ hxor, Nat.testBit_two_pow_mul_add _ hxs,
        Nat.testBit_two_pow_mul_add _ hys]
      split
      · rw [ih hlength, Nat.testBit_xor]
      · rw [UInt8.toNat_xor, Nat.testBit_xor]

/-! ## How many bits and octets a number needs -/

theorem bitLength_le_iff {n k : Nat} : bitLength n ≤ k ↔ n < 2 ^ k := by
  rw [bitLength]
  split
  · next h => simp [h]
  · next h => exact Nat.log2_lt h

theorem byteLength_le_iff {n k : Nat} : byteLength n ≤ k ↔ n < 256 ^ k := by
  have hpow : 256 ^ k = 2 ^ (8 * k) := by rw [pow_mul]; rfl
  rw [hpow, ← bitLength_le_iff, byteLength]
  omega

theorem lt_pow_byteLength (n : Nat) : n < 256 ^ byteLength n := byteLength_le_iff.1 (le_refl _)

/-- A number in as many octets as it needs. -/
def octets (n : Nat) : Bytes := ofNat (byteLength n) n

@[simp] theorem toNat_octets (n : Nat) : toNat (octets n) = n :=
  toNat_ofNat_of_lt (lt_pow_byteLength n)

/-- None of them is a leading zero. -/
theorem head?_octets_ne_zero (n : Nat) : (octets n).head? ≠ some 0 := by
  intro h
  obtain ⟨rest, hrest⟩ := List.head?_eq_some_iff.1 h
  have hlength : (octets n).length = byteLength n := length_ofNat _ _
  have hlt := toNat_lt rest
  rw [← toNat_zero_cons, ← hrest, toNat_octets, ← byteLength_le_iff, ← hlength, hrest,
    List.length_cons] at hlt
  omega

end SignOn.Crypto
