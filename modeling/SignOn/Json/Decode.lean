import SignOn.Json.Node
import SignOn.Json.Reader
import SignOn.Json.Value
import SignOn.Keyed
import SignOn.Text.Quoted

/-! # Decoding documents into typed values

A decoder walks a document in the order of its text, so the first fault in that order is the one
reported. It looks into an array or an object only if it expects one. Its first argument is the
number of levels of nesting that it may still enter.
-/

namespace SignOn.Json

/-- What was found where a value of another type was expected. -/
inductive Found where
  | null
  | bool (b : Bool)
  | number (n : Number)
  | string (s : String)
  | sequence
  | map
deriving DecidableEq, Repr

/-- Why a document is not what was asked for. -/
inductive DecodeError where
  /-- The text is no JSON, or uses numbers, escapes or nesting beyond what is read. -/
  | malformed
  | wrongType (found : Found) (expected : String)
  | wrongValue (found : Found) (expected : String)
  | wrongLength (n : Nat) (record : String) (size : Nat)
  | unknownVariant (name : String) (variants : List String)
  | missingField (name : String)
  | duplicateField (name : String)
deriving DecidableEq, Repr

namespace Found

def text : Found → String
  | .null => "null"
  | .bool true => "boolean `true`"
  | .bool false => "boolean `false`"
  | .number (.int n) => "integer `" ++ toString n ++ "`"
  | .number (.real bits) => "floating point `" ++ realText bits ++ "`"
  | .string s => "string " ++ Text.quote s
  | .sequence => "sequence"
  | .map => "map"

end Found

namespace DecodeError

def ticked (s : String) : String := "`" ++ s ++ "`"

/-- The names that could have stood in the place of an unknown one. -/
def alternatives : List String → String
  | [a] => ticked a
  | [a, b] => ticked a ++ " or " ++ ticked b
  | names => "one of " ++ String.intercalate ", " (names.map ticked)

/-- The text of an error, without the line and the column at which it is. For a document that is no
JSON, `<malformed JSON>` stands for whatever a parser says of its syntax. -/
def message : DecodeError → String
  | .malformed => "<malformed JSON>"
  | .wrongType found expected => "invalid type: " ++ found.text ++ ", expected " ++ expected
  | .wrongValue found expected => "invalid value: " ++ found.text ++ ", expected " ++ expected
  | .wrongLength n record size =>
    "invalid length " ++ toString n ++ ", expected struct " ++ record ++ " with " ++
      toString size ++ if size = 1 then " element" else " elements"
  | .unknownVariant name variants =>
    "unknown variant " ++ ticked name ++ ", expected " ++ alternatives variants
  | .missingField name => "missing field " ++ ticked name
  | .duplicateField name => "duplicate field " ++ ticked name

end DecodeError

abbrev Decoded (α : Type) := Except DecodeError α

abbrev Decoder (α : Type) := Nat → Node → Decoded α

namespace Node

/-- What a value of the wrong type is said to be, if the text of it can be read. -/
def found? : Node → Option Found
  | .null => some .null
  | .bool b => some (.bool b)
  | .number x => x.number?.map .number
  | .string (.ok s) => some (.string s)
  | .string (.error _) => none
  | .array _ => some .sequence
  | .object _ => some .map
  | .broken => none

/-- The error for a value that is not of the expected type. -/
def mismatch (n : Node) (expected : String) : DecodeError :=
  match n.found? with
  | some found => .wrongType found expected
  | none => .malformed

end Node

namespace Decode

def string : Decoder String := fun _ n ↦
  match n with
  | .string (.ok s) => .ok s
  | n => .error (n.mismatch "a string")

/-- An integer of 64 bits with a sign. -/
def integer : Decoder Int64 := fun _ n ↦
  match n with
  | .number x =>
    match x.number? with
    | some (.int i) =>
      if i ≤ Int64.maxValue.toInt then .ok (Int64.ofInt i)
      else .error (.wrongValue (.number (.int i)) "i64")
    | _ => .error (n.mismatch "i64")
  | n => .error (n.mismatch "i64")

/-- A value that may also be null. -/
def nullable {α : Type} (d : Decoder α) : Decoder (Option α) := fun room n ↦
  match n with
  | .null => .ok none
  | n => some <$> d room n

/-- The items of an array that is closed. -/
def items {α : Type} (d : Decoder α) (room : Nat) : Items → Decoded (List α)
  | .done => .ok []
  | .cut => .error .malformed
  | .next item rest => do
    let a ← d room item
    let as ← items d room rest
    return a :: as

def sequence {α : Type} (d : Decoder α) : Decoder (List α) := fun room n ↦
  match n, room with
  | .array _, 0 => .error .malformed
  | .array is, room + 1 => items d room is
  | n, _ => .error (n.mismatch "a sequence")

/-- The members of an object that is closed. -/
def members {α : Type} (d : Decoder α) (room : Nat) : Members → Decoded (List (String × α))
  | .done => .ok []
  | .cut => .error .malformed
  | .next (.error _) _ _ => .error .malformed
  | .next (.ok key) value rest => do
    let a ← d room value
    let as ← members d room rest
    return (key, a) :: as

/-- An object whose members all have the same type. -/
def mapping {α : Type} (d : Decoder α) : Decoder (List (String × α)) := fun room n ↦
  match n, room with
  | .object _, 0 => .error .malformed
  | .object ms, room + 1 => members d room ms
  | n, _ => .error (n.mismatch "a map")

/-- What a name stands for. -/
def named {α : Type} (names : List (String × α)) (name : String) : Decoded α :=
  match names.lookup name with
  | some a => .ok a
  | none => .error (.unknownVariant name (names.map Prod.fst))

/-- One of several names: a string, or an object whose only member has the name and is null. -/
def oneOf {α : Type} (names : List (String × α)) : Decoder α := fun room n ↦
  match n, room with
  | .string (.ok name), _ => named names name
  | .object (.next (.ok name) value rest), _ + 1 => do
    let a ← named names name
    match value, rest with
    | .null, .done => return a
    | .null, _ => .error .malformed
    | value, _ => .error (value.mismatch "unit")
  | _, _ => .error .malformed

/-- One of several names, in a value that was read to its end before. The only member of an object
may also be an empty object. -/
def oneOfKept {α : Type} (names : List (String × α)) : Decoder α := fun _ n ↦
  match n with
  | .string (.ok name) => named names name
  | .object (.next (.ok name) value .done) => do
    let a ← named names name
    match value with
    | .null | .object .done => return a
    | value => .error (value.mismatch "unit")
  | .object _ => .error (.wrongValue .map "map with a single key")
  | n => .error (n.mismatch "string or map")

mutual

/-- Any value. Objects are put in the order of their keys. -/
def any (room : Nat) : Node → Decoded Value
  | .null => .ok .null
  | .bool b => .ok (.bool b)
  | .number x =>
    match x.number? with
    | some n => .ok (.number n)
    | none => .error .malformed
  | .string (.ok s) => .ok (.string s)
  | .string (.error _) => .error .malformed
  | .array is =>
    match room with
    | 0 => .error .malformed
    | room + 1 => Value.array <$> anyItems room is
  | .object ms =>
    match room with
    | 0 => .error .malformed
    | room + 1 => (fun ms ↦ Value.object (Keyed.ofList ms)) <$> anyMembers room ms
  | .broken => .error .malformed

def anyItems (room : Nat) : Items → Decoded (List Value)
  | .done => .ok []
  | .cut => .error .malformed
  | .next item rest => do
    let v ← any room item
    let vs ← anyItems room rest
    return v :: vs

def anyMembers (room : Nat) : Members → Decoded (List (String × Value))
  | .done => .ok []
  | .cut => .error .malformed
  | .next (.error _) _ _ => .error .malformed
  | .next (.ok key) value rest => do
    let v ← any room value
    let vs ← anyMembers room rest
    return (key, v) :: vs

end

end Decode

/-- The greatest number of levels of nesting that a decoder enters. -/
def maxDepth : Nat := 127

namespace Decoder

/-- Decodes a document, behind which only blanks may follow. -/
def runDocument {α : Type} (d : Decoder α) (doc : Document) : Decoded α := do
  let a ← d maxDepth doc.root
  if doc.ended then return a else .error .malformed

def runBytes {α : Type} (d : Decoder α) (bs : Bytes) : Decoded α := d.runDocument (read bs)

def run {α : Type} (d : Decoder α) (s : String) : Decoded α := d.runBytes (Text.utf8 s)

end Decoder

end SignOn.Json
