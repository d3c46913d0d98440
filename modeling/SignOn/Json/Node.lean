import SignOn.Json.Number

/-! # Documents as they were read, up to the place where reading stopped -/

namespace SignOn.Json

/-- Why the bytes and escapes of a string denote no text. -/
inductive StringFault where
  /-- The bytes are not UTF-8. -/
  | encoding
  /-- A high surrogate stands at the end. -/
  | openPair
  /-- A surrogate stands elsewhere without its partner. -/
  | surrogate
deriving DecidableEq, Repr

mutual

/-- A value of a document. Where the text stops being JSON, the value is `broken`. -/
inductive Node where
  | null
  | bool (b : Bool)
  | number (x : Numeral)
  | string (s : Except StringFault String)
  | array (items : Items)
  | object (members : Members)
  | broken

/-- The items of an array in order, which is either closed or cut off. -/
inductive Items where
  | done
  | cut
  | next (item : Node) (rest : Items)

/-- The members of an object in order, which is either closed or cut off. -/
inductive Members where
  | done
  | cut
  | next (key : Except StringFault String) (value : Node) (rest : Members)

end

mutual

/-- The text of the value was read to its end. -/
def Node.intact : Node → Bool
  | .null | .bool _ | .number _ | .string _ => true
  | .array items => items.intact
  | .object members => members.intact
  | .broken => false

def Items.intact : Items → Bool
  | .done => true
  | .cut => false
  | .next item rest => item.intact && rest.intact

def Members.intact : Members → Bool
  | .done => true
  | .cut => false
  | .next _ value rest => value.intact && rest.intact

end

/-- A document: its value, and whether nothing but blanks followed. -/
structure Document where
  root : Node
  ended : Bool

end SignOn.Json
