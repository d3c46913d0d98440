import SignOn.Text.Utf8

/-! # The base64url code without padding -/

namespace SignOn.Text.Base64Url

/-- Why a text is no base64url text. Offsets count bytes. -/
inductive Error where
  | symbol (byte : UInt8) (offset : Nat)
  | lastSymbol (byte : UInt8) (offset : Nat)
  | length (n : Nat)
  | padding
deriving DecidableEq, Repr

def Error.message : Error → String
  | .symbol b i => "Invalid symbol " ++ toString b.toNat ++ ", offset " ++ toString i ++ "."
  | .lastSymbol b i =>
    "Invalid last symbol " ++ toString b.toNat ++ ", offset " ++ toString i ++ "."
  | .length n => "Invalid input length: " ++ toString n
  | .padding => "Invalid padding"

/-- The symbol of a value below 64: A to Z, a to z, 0 to 9, hyphen and underscore. -/
def symbol (v : Nat) : UInt8 :=
  if v < 26 then UInt8.ofNat (v + 65)
  else if v < 52 then UInt8.ofNat (v + 71)
  else if v < 62 then UInt8.ofNat (v - 4)
  else if v = 62 then 45
  else 95

/-- The value of a symbol. -/
def value? (b : UInt8) : Option Nat :=
  let n := b.toNat
  if 65 ≤ n ∧ n ≤ 90 then some (n - 65)
  else if 97 ≤ n ∧ n ≤ 122 then some (n - 71)
  else if 48 ≤ n ∧ n ≤ 57 then some (n + 4)
  else if n = 45 then some 62
  else if n = 95 then some 63
  else none

/-- The sign that other base64 codes fill up with. -/
def pad : UInt8 := 61

theorem value?_symbol {v : Nat} (h : v < 64) : value? (symbol v) = some v := by
  revert v; decide

set_option maxRecDepth 4000 in
theorem symbol_of_value? {b : UInt8} {v : Nat} (h : value? b = some v) :
    symbol v = b ∧ v < 64 := by
  have key : ∀ n : Fin 256, ∀ v ∈ value? (UInt8.ofNat n), symbol v = UInt8.ofNat n ∧ v < 64 := by
    decide
  have hb : UInt8.ofNat b.toNat = b := UInt8.ofNat_toNat
  simpa [hb] using key ⟨b.toNat, b.toNat_lt⟩ v (by simpa [hb] using h)

/-- Three bytes give four symbols; two bytes at the end give three, and one gives two. -/
def encodeBytes : Bytes → Bytes
  | x :: y :: z :: rest =>
    let n := x.toNat * 65536 + y.toNat * 256 + z.toNat
    symbol (n / 262144) :: symbol (n / 4096 % 64) :: symbol (n / 64 % 64) :: symbol (n % 64) ::
      encodeBytes rest
  | [x, y] =>
    let n := x.toNat * 1024 + y.toNat * 4
    [symbol (n / 4096), symbol (n / 64 % 64), symbol (n % 64)]
  | [x] =>
    let n := x.toNat * 16
    [symbol (n / 64), symbol (n % 64)]
  | [] => []

def encode (bs : Bytes) : String := ofAscii (encodeBytes bs)

/-- The value of the symbol at an offset. -/
def valueAt (offset : Nat) (b : UInt8) : Except Error Nat :=
  match value? b with
  | some v => .ok v
  | none => .error (.symbol b offset)

/-- Reads the one to four bytes at the end, up to their first sign of padding; answers the symbols
with their values, and whether padding followed. -/
def tailValues (offset index : Nat) : Bytes → Except Error (List (UInt8 × Nat) × Bool)
  | [] => .ok ([], false)
  | b :: rest =>
    if b = pad then
      if index < 2 then .error (.symbol b (offset + index))
      else if rest.all (· = pad) then .ok ([], true)
      else .error (.symbol b (offset + index))
    else do
      let v ← valueAt (offset + index) b
      let (vs, padded) ← tailValues offset (index + 1) rest
      return ((b, v) :: vs, padded)

/-- The bytes that the symbols of a last group stand for. Bits left over have to be zero. -/
def tailBytes (offset : Nat) : List (UInt8 × Nat) → Except Error Bytes
  | [(_, v), (_, w), (_, x), (_, y)] =>
    let n := v * 262144 + w * 4096 + x * 64 + y
    .ok [UInt8.ofNat (n / 65536), UInt8.ofNat (n / 256 % 256), UInt8.ofNat (n % 256)]
  | [(_, v), (_, w), (b, x)] =>
    let n := v * 4096 + w * 64 + x
    if n % 4 = 0 then .ok [UInt8.ofNat (n / 1024), UInt8.ofNat (n / 4 % 256)]
    else .error (.lastSymbol b (offset + 2))
  | [(_, v), (b, w)] =>
    let n := v * 64 + w
    if n % 16 = 0 then .ok [UInt8.ofNat (n / 16)] else .error (.lastSymbol b (offset + 1))
  | vs => .error (.length (offset + vs.length))

def decodeTail (offset : Nat) (bs : Bytes) : Except Error Bytes := do
  let (vs, padded) ← tailValues offset 0 bs
  if vs.length < 2 then .error (.length (offset + vs.length))
  else if padded then .error .padding
  else tailBytes offset vs

/-- Reads groups of four symbols, the first of them at `offset`. -/
def decodeFrom (offset : Nat) : Bytes → Except Error Bytes
  | a :: b :: c :: d :: e :: rest => do
    let v ← valueAt offset a
    let w ← valueAt (offset + 1) b
    let x ← valueAt (offset + 2) c
    let y ← valueAt (offset + 3) d
    let n := v * 262144 + w * 4096 + x * 64 + y
    let more ← decodeFrom (offset + 4) (e :: rest)
    return UInt8.ofNat (n / 65536) :: UInt8.ofNat (n / 256 % 256) :: UInt8.ofNat (n % 256) :: more
  | [] => .ok []
  | bs => decodeTail offset bs

/-- Reads a text given as bytes. A single byte behind the last whole group is looked at first. -/
def decodeBytes (bs : Bytes) : Except Error Bytes :=
  match bs.getLast? with
  | some b =>
    if bs.length % 4 = 1 ∧ b ≠ pad ∧ value? b = none then .error (.symbol b (bs.length - 1))
    else decodeFrom 0 bs
  | none => .ok []

def decode (s : String) : Except Error Bytes := decodeBytes (utf8 s)

/-- The bytes of a base64url text, without the reason why there are none. -/
def decode? (s : String) : Option Bytes := (decode s).toOption

/-- The text without the padding at its end. -/
def stripPadding (s : String) : String :=
  String.ofList (s.toList.reverse.dropWhile (· = '=')).reverse

end SignOn.Text.Base64Url
