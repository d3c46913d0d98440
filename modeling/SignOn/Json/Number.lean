import SignOn.Json.Shortest

/-! # Numbers: how they are spelled and what they stand for -/

namespace SignOn.Json

/-- An integer of 64 bits, signed or not, or the bits of a finite binary64 number. -/
inductive Number where
  | int (n : Int)
  | real (bits : UInt64)
deriving DecidableEq, Repr

def Number.text : Number → String
  | .int n => toString n
  | .real bits => realText bits

/-- The parts of a number as it is written. Digits are values below ten. -/
structure Numeral where
  negative : Bool
  whole : List Nat
  fraction : List Nat
  /-- A sign and digits, if there is an exponent. -/
  exponent : Option (Bool × List Nat)
deriving DecidableEq, Repr

namespace Numeral

def ofDigits (ds : List Nat) : Nat := ds.foldl (fun m d ↦ m * 10 + d) 0

/-- Appends digits to `m` while the result fits 64 bits; the digits that no longer fit are left. -/
def append (m : Nat) : List Nat → Nat × List Nat
  | d :: ds => if m * 10 + d < Nat.pow 2 64 then append (m * 10 + d) ds else (m, d :: ds)
  | [] => (m, [])

def powerOfTen (k : Nat) : Float := Float.ofScientific 1 false k

/-- `x` times ten to the power `e`, by steps of 308 places. Nothing if that is too large. -/
def scale (x : Float) (e : Int) : Option Float :=
  if e.natAbs ≤ 308 then
    if 0 ≤ e then
      let y := x * powerOfTen e.toNat
      if y.isInf then none else some y
    else some (x / powerOfTen (-e).toNat)
  else if x == 0 then some x
  else if 0 ≤ e then none
  else scale (x / powerOfTen 308) (e + 308)
termination_by e.natAbs

def signed (negative : Bool) (x : Float) : Number := .real (if negative then -x else x).toBits

/-- The number as a real: significant digits beyond 64 bits count as zeros in front of the point
and are dropped behind it. Zero stays zero with every exponent. -/
def real? (x : Numeral) : Option Number :=
  let (m, dropped) := append 0 x.whole
  let (m, rest) := append m x.fraction
  let start : Int := dropped.length - (x.fraction.length - rest.length : Nat)
  if m = 0 then some (signed x.negative 0)
  else
    match x.exponent with
    | none => (scale (UInt64.ofNat m).toFloat start).map (signed x.negative)
    | some (down, ds) =>
      let e := ofDigits ds
      if e < Nat.pow 2 31 then
        (scale (UInt64.ofNat m).toFloat (if down then start - e else start + e)).map
          (signed x.negative)
      else if down then some (signed x.negative 0)
      else none

/-- The exponent outgrows 32 bits in front of its last digit, and the number with it. -/
def outgrown (x : Numeral) : Bool :=
  match x.exponent with
  | some (false, ds) =>
    Nat.pow 2 31 ≤ ofDigits ds.dropLast && (x.whole ++ x.fraction).any (· ≠ 0)
  | _ => false

/-- The number spelled, or nothing if it is out of range. Minus zero and integers beyond 64 bits
are reals. -/
def number? (x : Numeral) : Option Number :=
  let n := ofDigits x.whole
  if x.fraction = [] ∧ x.exponent = none then
    if x.negative then
      if 0 < n ∧ n ≤ Nat.pow 2 63 then some (.int (-n)) else x.real?
    else if n < Nat.pow 2 64 then some (.int n) else x.real?
  else x.real?

end Numeral

end SignOn.Json
