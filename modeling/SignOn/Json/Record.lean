import SignOn.Json.Decode

/-! # Records: objects with known fields

A record may also be given as an array of its fields in their order. Unknown members of an object
are passed over.
-/

namespace SignOn.Json

/-- Whether a field may be left out. -/
inductive Presence where
  | required
  /-- May be left out of an object, but has its place in an array. -/
  | optional
  | defaulted
deriving DecidableEq, Repr

structure Field where
  name : String
  presence : Presence
  check : Decoder Unit

/-- The values of the fields that a document gives, and the nesting that is left for them. -/
structure Given where
  room : Nat
  values : List (String × Node)

/-- How to decode a record: its fields in order, and how they make up the whole. -/
structure Record (α : Type) where
  fields : List Field
  build : Given → Decoded α

namespace Record

variable {α β : Type}

def checkOf (d : Decoder α) : Decoder Unit := fun room n ↦ (fun _ ↦ ()) <$> d room n

def required (name : String) (d : Decoder α) : Record α where
  fields := [⟨name, .required, checkOf d⟩]
  build g :=
    match g.values.lookup name with
    | some n => d g.room n
    | none => .error (.missingField name)

/-- A field that may be null; if it is missing from an object, that means null too. -/
def optional (name : String) (d : Decoder α) : Record (Option α) where
  fields := [⟨name, .optional, checkOf (Decode.nullable d)⟩]
  build g :=
    match g.values.lookup name with
    | some n => Decode.nullable d g.room n
    | none => .ok none

def defaulted (name : String) (d : Decoder α) (value : α) : Record α where
  fields := [⟨name, .defaulted, checkOf d⟩]
  build g :=
    match g.values.lookup name with
    | some n => d g.room n
    | none => .ok value

def pure (a : α) : Record α := ⟨[], fun _ ↦ .ok a⟩

/-- A record with the fields of two. -/
def both (f : Record (α → β)) (x : Record α) : Record β where
  fields := f.fields ++ x.fields
  build g := do
    let h ← f.build g
    let a ← x.build g
    return h a

instance : Functor Record where
  map f x := both (pure f) x

instance : Seq Record where
  seq f x := both f (x ())

instance : Pure Record where
  pure := pure

/-- Goes through the members of an object. Known ones are checked and must not repeat; for the
others there is a check of their own. -/
def scan (fields : List Field) (others : Node → Decoded Unit) (room : Nat) (seen : List String) :
    Members → Decoded (List (String × Node))
  | .done => .ok []
  | .cut => .error .malformed
  | .next (.error _) _ _ => .error .malformed
  | .next (.ok key) value rest => do
    match fields.find? (fun f ↦ f.name = key) with
    | some f =>
      if key ∈ seen then .error (.duplicateField key)
      else
        f.check room value
        let found ← scan fields others room (key :: seen) rest
        return (key, value) :: found
    | none =>
      others value
      let found ← scan fields others room seen rest
      return (key, value) :: found

/-- Unknown members only have to be JSON. -/
def passOver (n : Node) : Decoded Unit := if n.intact then .ok () else .error .malformed

/-- The first required field that is missing is an error. -/
def checkPresent (fields : List Field) (values : List (String × Node)) : Decoded Unit :=
  match fields.find? (fun f ↦ f.presence = .required && (values.lookup f.name).isNone) with
  | some f => .error (.missingField f.name)
  | none => .ok ()

/-- Gives the items of an array to the fields in their order. `wrong` is the error for an array
that ends in front of a field. -/
def place (wrong : Nat → DecodeError) (room : Nat) (index : Nat) :
    List Field → Items → Decoded (List (String × Node))
  | [], .done => .ok []
  | [], _ => .error .malformed
  | _ :: _, .cut => .error .malformed
  | f :: fs, .done =>
    if f.presence = .defaulted then place wrong room (index + 1) fs .done
    else .error (wrong index)
  | f :: fs, .next item rest => do
    f.check room item
    let found ← place wrong room (index + 1) fs rest
    return (f.name, item) :: found

/-- Decodes a record that is called `name` in errors. -/
def decode (name : String) (r : Record α) : Decoder α := fun room n ↦
  match n, room with
  | .object _, 0 | .array _, 0 => .error .malformed
  | .object ms, room + 1 => do
    let values ← scan r.fields passOver room [] ms
    checkPresent r.fields values
    r.build ⟨room, values⟩
  | .array items, room + 1 => do
    let values ← place (.wrongLength · name r.fields.length) room 0 r.fields items
    r.build ⟨room, values⟩
  | n, _ => .error (n.mismatch ("struct " ++ name))

/-- The members among `values` that `fields` know, which must not repeat. -/
def rescan (fields : List Field) (room : Nat) (seen : List String) :
    List (String × Node) → Decoded Unit
  | [] => .ok ()
  | (key, value) :: rest =>
    match fields.find? (fun f ↦ f.name = key) with
    | some f =>
      if key ∈ seen then .error (.duplicateField key)
      else do
        f.check room value
        rescan fields room (key :: seen) rest
    | none => rescan fields room seen rest

/-- Decodes an object whose members make up two records: those of `r` are read as they come, all
others are kept, and those of `s` among them are read when the object has ended. -/
def decodeWithin (name : String) (r : Record (β → α)) (s : Record β) : Decoder α := fun room n ↦
  match n, room with
  | .object _, 0 => .error .malformed
  | .object ms, room + 1 => do
    let values ← scan r.fields (fun n ↦ (fun _ ↦ ()) <$> Decode.any room n) room [] ms
    checkPresent r.fields values
    rescan s.fields room [] values
    let f ← r.build ⟨room, values⟩
    let b ← s.build ⟨room, values⟩
    return f b
  | n, _ => .error (n.mismatch ("struct " ++ name))

end Record

end SignOn.Json
