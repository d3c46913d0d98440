/-! # The shortest decimal that reads back as a binary64 number -/

namespace SignOn.Json

/-- A positive binary64 number: `mantissa` times two to the power `exponent`. -/
structure Binary where
  mantissa : Nat
  exponent : Int
  /-- The next smaller number is only half as far away as the next larger one. -/
  narrowBelow : Bool
deriving DecidableEq, Repr

/-- The decimal `digits` times ten to the power `exponent`. -/
structure Decimal where
  digits : Nat
  exponent : Int
deriving DecidableEq, Repr

namespace Binary

/-- The magnitude that 63 bits below the sign stand for; zero has none. -/
def ofBits? (bits : Nat) : Option Binary :=
  let fraction : Nat := bits % Nat.pow 2 52
  let power : Nat := bits / Nat.pow 2 52 % 2048
  if power = 0 then
    if fraction = 0 then none else some ⟨fraction, -1074, false⟩
  else some ⟨Nat.pow 2 52 + fraction, (power : Int) - 1075, fraction = 0 && power ≠ 1⟩

/-- Numerator and denominator of a quarter of the unit of the last place. -/
def quarter (x : Binary) : Nat × Nat :=
  let e := x.exponent - 2
  if 0 ≤ e then (Nat.pow 2 e.toNat, 1) else (1, Nat.pow 2 (-e).toNat)

/-- Whether `c` times ten to the power `k` reads back as `x`. The ends of the interval of such
numbers belong to it if the mantissa is even. -/
def ReadsBack (x : Binary) (c : Nat) (k : Int) : Bool :=
  let (num, den) := x.quarter
  let low := (4 * x.mantissa - if x.narrowBelow then 1 else 2) * num
  let high := (4 * x.mantissa + 2) * num
  let point := c * Nat.pow 10 k.toNat * den
  let unit := Nat.pow 10 (-k).toNat
  if x.mantissa % 2 = 0 then low * unit ≤ point && point ≤ high * unit
  else low * unit < point && point < high * unit

/-- The multiples of ten to the power `k` just below and just above `x`, the nearer one first. -/
def neighbours (x : Binary) (k : Int) : List Nat :=
  let (num, den) := x.quarter
  let top := 4 * x.mantissa * num * Nat.pow 10 (-k).toNat
  let bottom := den * Nat.pow 10 k.toNat
  let c := top / bottom
  let above := 2 * (top % bottom)
  if bottom < above ∨ (above = bottom ∧ c % 2 = 1) then [c + 1, c] else [c, c + 1]

/-- The decimal with the coarsest last place that reads back as `x`, from the place `k` on. -/
def search (x : Binary) : Nat → Int → Option Decimal
  | 0, _ => none
  | fuel + 1, k =>
    match (x.neighbours k).find? (fun c ↦ c ≠ 0 && x.ReadsBack c k) with
    | some c => some ⟨c, k⟩
    | none => search x fuel (k - 1)

/-- No number has a place above the 308th or needs one below the 324th. -/
def shortest (x : Binary) : Decimal := (x.search 640 309).getD ⟨x.mantissa, 0⟩

end Binary

namespace Decimal

/-- Positional for magnitudes from 0.00001 up to 10 000 000 000 000 000, else with an exponent and
its sign. There is always a fraction or an exponent. -/
def text (d : Decimal) : String :=
  let ds := (Nat.toDigits 10 d.digits)
  let point := ds.length + d.exponent
  let chars :=
    if 0 ≤ d.exponent ∧ point ≤ 16 then ds ++ List.replicate d.exponent.toNat '0' ++ ['.', '0']
    else if 0 < point ∧ point ≤ 16 then ds.take point.toNat ++ '.' :: ds.drop point.toNat
    else if -5 < point ∧ point ≤ 0 then
      ['0', '.'] ++ List.replicate (-point).toNat '0' ++ ds
    else
      let rest := ds.drop 1
      ds.take 1 ++ (if rest.isEmpty then [] else '.' :: rest) ++
        'e' :: (if 0 < point then ['+'] else []) ++ (toString (point - 1)).toList
  String.ofList chars

end Decimal

/-- The text of a finite binary64 number given by its bits. -/
def realText (bits : UInt64) : String :=
  let n := bits.toNat
  let magnitude :=
    match Binary.ofBits? n with
    | some x => x.shortest.text
    | none => "0.0"
  if Nat.pow 2 63 ≤ n then "-" ++ magnitude else magnitude

end SignOn.Json
