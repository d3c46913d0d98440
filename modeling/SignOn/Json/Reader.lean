import SignOn.Json.Node
import SignOn.Text.Utf8

/-! # Reading documents -/

namespace SignOn.Json

namespace Reader

def isBlank (b : UInt8) : Bool := b = 32 || b = 10 || b = 9 || b = 13

def skipBlanks (bs : Bytes) : Bytes := bs.dropWhile isBlank

def digit? (b : UInt8) : Option Nat := if 48 ≤ b && b ≤ 57 then some (b.toNat - 48) else none

def hexDigit? (b : UInt8) : Option Nat :=
  if 48 ≤ b && b ≤ 57 then some (b.toNat - 48)
  else if 97 ≤ b && b ≤ 102 then some (b.toNat - 87)
  else if 65 ≤ b && b ≤ 70 then some (b.toNat - 55)
  else none

/-- The digits at the front. -/
def digits : Bytes → List Nat × Bytes
  | b :: bs =>
    match digit? b with
    | some d => ((d :: (digits bs).1), (digits bs).2)
    | none => ([], b :: bs)
  | [] => ([], [])

/-- The digits of a whole part, which has no leading zero. -/
def whole? (bs : Bytes) : Option (List Nat × Bytes) :=
  match digits bs with
  | ([], _) => none
  | (0 :: _ :: _, _) => none
  | found => some found

/-- At least one digit behind a point, if there is a point. -/
def fraction? : Bytes → Option (List Nat × Bytes)
  | 46 :: bs =>
    match digits bs with
    | ([], _) => none
    | found => some found
  | bs => some ([], bs)

/-- At least one digit behind the letter and its sign, if there is a letter. -/
def exponent? : Bytes → Option (Option (Bool × List Nat) × Bytes)
  | b :: bs =>
    if b = 101 ∨ b = 69 then
      let (down, bs) :=
        match bs with
        | 43 :: bs => (false, bs)
        | 45 :: bs => (true, bs)
        | bs => (false, bs)
      match digits bs with
      | ([], _) => none
      | (ds, rest) => some (some (down, ds), rest)
    else some (none, b :: bs)
  | [] => some (none, [])

/-- The number at the front. -/
def numeral? (bs : Bytes) : Option (Numeral × Bytes) := do
  let (negative, bs) :=
    match bs with
    | 45 :: bs => (true, bs)
    | bs => (false, bs)
  let (whole, bs) ← whole? bs
  let (fraction, bs) ← fraction? bs
  let (exponent, bs) ← exponent? bs
  return (⟨negative, whole, fraction, exponent⟩, bs)

/-- A piece of a string: a byte, or a UTF-16 unit given by its number. -/
inductive Piece where
  | byte (b : UInt8)
  | unit (u : Nat)
deriving DecidableEq, Repr

/-- What an escape by a single character stands for. -/
def escape? (b : UInt8) : Option UInt8 :=
  match b with
  | 34 => some 34
  | 92 => some 92
  | 47 => some 47
  | 98 => some 8
  | 102 => some 12
  | 110 => some 10
  | 114 => some 13
  | 116 => some 9
  | _ => none

/-- The pieces up to the closing mark. -/
def pieces : Bytes → Option (List Piece × Bytes)
  | 34 :: bs => some ([], bs)
  | 92 :: 117 :: a :: b :: c :: d :: bs => do
    let u := (← hexDigit? a) * 4096 + (← hexDigit? b) * 256 + (← hexDigit? c) * 16 + (← hexDigit? d)
    let (ps, rest) ← pieces bs
    return (.unit u :: ps, rest)
  | 92 :: b :: bs => do
    let e ← escape? b
    let (ps, rest) ← pieces bs
    return (.byte e :: ps, rest)
  | b :: bs =>
    if b < 32 ∨ b = 92 then none
    else do
      let (ps, rest) ← pieces bs
      return (.byte b :: ps, rest)
  | [] => none

def isHighSurrogate (u : Nat) : Bool := 0xD800 ≤ u && u < 0xDC00

def isLowSurrogate (u : Nat) : Bool := 0xDC00 ≤ u && u < 0xE000

/-- The bytes of the pieces. Surrogates have to come in pairs, the high one first. -/
def pieceBytes : List Piece → Except StringFault Bytes
  | .byte b :: ps => (b :: ·) <$> pieceBytes ps
  | .unit u :: .unit v :: ps =>
    if isHighSurrogate u then
      if isLowSurrogate v then
        let c := Char.ofNat (0x10000 + (u - 0xD800) * 1024 + (v - 0xDC00))
        (String.utf8EncodeChar c ++ ·) <$> pieceBytes ps
      else .error .surrogate
    else if isLowSurrogate u then .error .surrogate
    else (String.utf8EncodeChar (Char.ofNat u) ++ ·) <$> pieceBytes (.unit v :: ps)
  | .unit u :: ps =>
    if isHighSurrogate u then .error (if ps.isEmpty then .openPair else .surrogate)
    else if isLowSurrogate u then .error .surrogate
    else (String.utf8EncodeChar (Char.ofNat u) ++ ·) <$> pieceBytes ps
  | [] => .ok []

def pieceText (ps : List Piece) : Except StringFault String := do
  match Text.ofUtf8? (← pieceBytes ps) with
  | some s => .ok s
  | none => .error .encoding

/-- A value that is neither string, array nor object. -/
def readScalar (bs : Bytes) : Node × Option Bytes :=
  match bs with
  | 110 :: 117 :: 108 :: 108 :: rest => (.null, some rest)
  | 116 :: 114 :: 117 :: 101 :: rest => (.bool true, some rest)
  | 102 :: 97 :: 108 :: 115 :: 101 :: rest => (.bool false, some rest)
  | bs =>
    match numeral? bs with
    | some (x, rest) => (.number x, some rest)
    | none => (.broken, none)

mutual

/-- A value and what follows it, unless reading stopped within. -/
def readValue : Nat → Bytes → Node × Option Bytes
  | 0, _ => (.broken, none)
  | fuel + 1, bs =>
    match skipBlanks bs with
    | 34 :: bs =>
      match pieces bs with
      | some (ps, rest) => (.string (pieceText ps), some rest)
      | none => (.broken, none)
    | 91 :: bs =>
      match skipBlanks bs with
      | 93 :: rest => (.array .done, some rest)
      | bs =>
        let (items, rest) := readItems fuel bs
        (.array items, rest)
    | 123 :: bs =>
      match skipBlanks bs with
      | 125 :: rest => (.object .done, some rest)
      | bs =>
        let (members, rest) := readMembers fuel bs
        (.object members, rest)
    | bs => readScalar bs

/-- One item or more, and the closing bracket. -/
def readItems : Nat → Bytes → Items × Option Bytes
  | 0, _ => (.cut, none)
  | fuel + 1, bs =>
    match readValue fuel bs with
    | (item, none) => (.next item .cut, none)
    | (item, some bs) =>
      match skipBlanks bs with
      | 93 :: rest => (.next item .done, some rest)
      | 44 :: bs =>
        let (items, rest) := readItems fuel bs
        (.next item items, rest)
      | _ => (.next item .cut, none)

/-- One member or more, and the closing brace. -/
def readMembers : Nat → Bytes → Members × Option Bytes
  | 0, _ => (.cut, none)
  | fuel + 1, bs =>
    match skipBlanks bs with
    | 34 :: bs =>
      match pieces bs with
      | none => (.cut, none)
      | some (ps, bs) =>
        match skipBlanks bs with
        | 58 :: bs =>
          match readValue fuel bs with
          | (value, none) => (.next (pieceText ps) value .cut, none)
          | (value, some bs) =>
            match skipBlanks bs with
            | 125 :: rest => (.next (pieceText ps) value .done, some rest)
            | 44 :: bs =>
              let (members, rest) := readMembers fuel bs
              (.next (pieceText ps) value members, rest)
            | _ => (.next (pieceText ps) value .cut, none)
        | _ => (.next (pieceText ps) .broken .cut, none)
    | _ => (.cut, none)

end

end Reader

/-- Reads bytes as a document. Every level of nesting takes a byte, so the fuel suffices. -/
def read (bs : Bytes) : Document :=
  match Reader.readValue (2 * bs.length + 2) bs with
  | (root, some rest) => ⟨root, (Reader.skipBlanks rest).isEmpty⟩
  | (root, none) => ⟨root, false⟩

end SignOn.Json
