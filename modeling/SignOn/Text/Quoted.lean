import SignOn.Text.Letter
import SignOn.Text.UnprintableTable

/-! # Quoted text for diagnostics -/

namespace SignOn.Text

/-- The lower-case hexadecimal digits of a number. -/
def hexDigits (n : Nat) : List Char := Nat.toDigits 16 n

/-- A printed character stands for itself. -/
def isPrintable (c : Char) : Bool :=
  32 ≤ c.toNat && (c.toNat < 127 || !inRuns unprintableRuns c.toNat)

/-- One character of a quoted text. -/
def quoteChar (c : Char) : List Char :=
  match c with
  | '"' => ['\\', '"']
  | '\\' => ['\\', '\\']
  | '\n' => ['\\', 'n']
  | '\r' => ['\\', 'r']
  | '\t' => ['\\', 't']
  | '\x00' => ['\\', '0']
  | c =>
    if isPrintable c then [c]
    else ['\\', 'u', '\x7b'] ++ hexDigits c.toNat ++ ['\x7d']

/-- The text between quotation marks, with controls, marks and backslashes escaped. -/
def quote (s : String) : String := String.ofList ('"' :: s.toList.flatMap quoteChar ++ ['"'])

/-- The items between square brackets. -/
def bracket (items : List String) : String := "[" ++ String.intercalate ", " items ++ "]"

/-- A quoted text, or the word for its absence. -/
def quoteOption : Option String → String
  | some s => "Some(" ++ quote s ++ ")"
  | none => "None"

end SignOn.Text
