import SignOn.Json.Number

/-! # JSON values and how they are written -/

namespace SignOn.Json

/-- A JSON value. The members of an object have an order. -/
inductive Value where
  | null
  | bool (b : Bool)
  | number (n : Number)
  | string (s : String)
  | array (items : List Value)
  | object (members : List (String × Value))

instance : Inhabited Value := ⟨.null⟩

namespace Value

def int (n : Int64) : Value := .number (.int n.toInt)

/-- A string, or null. -/
def stringOrNull : Option String → Value
  | some s => .string s
  | none => .null

def strings (xs : List String) : Value := .array (xs.map .string)

/-- The two lower-case hexadecimal digits of a number below 256. -/
def hexPair (n : Nat) : List Char := [Nat.digitChar (n / 16), Nat.digitChar (n % 16)]

/-- A character inside a string: marks, backslashes and controls are escaped. -/
def writeChar (c : Char) : List Char :=
  if c = '"' then ['\\', '"']
  else if c = '\\' then ['\\', '\\']
  else if c = '\x08' then ['\\', 'b']
  else if c = '\t' then ['\\', 't']
  else if c = '\n' then ['\\', 'n']
  else if c = '\x0c' then ['\\', 'f']
  else if c = '\r' then ['\\', 'r']
  else if c.toNat < 32 then '\\' :: 'u' :: '0' :: '0' :: hexPair c.toNat
  else [c]

def writeString (s : String) : List Char := '"' :: s.toList.flatMap writeChar ++ ['"']

mutual

/-- The characters of a value, with no blanks between the parts. -/
def write : Value → List Char
  | .null => ['n', 'u', 'l', 'l']
  | .bool true => ['t', 'r', 'u', 'e']
  | .bool false => ['f', 'a', 'l', 's', 'e']
  | .number n => n.text.toList
  | .string s => writeString s
  | .array items => '[' :: writeItems items
  | .object members => '\x7b' :: writeMembers members

def writeItems : List Value → List Char
  | [] => [']']
  | [v] => write v ++ [']']
  | v :: w :: rest => write v ++ ',' :: writeItems (w :: rest)

def writeMembers : List (String × Value) → List Char
  | [] => ['\x7d']
  | [(k, v)] => writeString k ++ ':' :: write v ++ ['\x7d']
  | (k, v) :: m :: rest => writeString k ++ ':' :: write v ++ ',' :: writeMembers (m :: rest)

end

/-- The compact text of a value. -/
def text (v : Value) : String := String.ofList v.write

/-- A new line, and the blanks in front of what stands `depth` levels deep. -/
def newLine (depth : Nat) : List Char := '\n' :: List.replicate (2 * depth) ' '

mutual

/-- The characters of a value with every item and member on a line of its own. -/
def writeLines (depth : Nat) : Value → List Char
  | .array [] => ['[', ']']
  | .array items => '[' :: itemLines (depth + 1) items
  | .object [] => ['\x7b', '\x7d']
  | .object members => '\x7b' :: memberLines (depth + 1) members
  | v => v.write

def itemLines (depth : Nat) : List Value → List Char
  | [] => [']']
  | [v] => newLine depth ++ writeLines depth v ++ newLine (depth - 1) ++ [']']
  | v :: w :: rest => newLine depth ++ writeLines depth v ++ ',' :: itemLines depth (w :: rest)

def memberLines (depth : Nat) : List (String × Value) → List Char
  | [] => ['\x7d']
  | [(k, v)] =>
    newLine depth ++ writeString k ++ ':' :: ' ' :: writeLines depth v ++ newLine (depth - 1) ++
      ['\x7d']
  | (k, v) :: m :: rest =>
    newLine depth ++ writeString k ++ ':' :: ' ' :: writeLines depth v ++
      ',' :: memberLines depth (m :: rest)

end

/-- The text of a value laid out over lines. -/
def lines (v : Value) : String := String.ofList (v.writeLines 0)

/-- The value of a member of an object. -/
def member? (name : String) : Value → Option Value
  | .object ms => ms.lookup name
  | _ => none

def string? : Value → Option String
  | .string s => some s
  | _ => none

end Value

end SignOn.Json
