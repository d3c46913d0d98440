import SignOn.Jose.Error
import SignOn.Jose.Jwk
import SignOn.Keyed

/-! # Key rings: keys under their ids -/

namespace SignOn.Jose

open Json

/-- The keys of a key-set document, in its order. -/
structure KeySet where
  keys : List Jwk
deriving DecidableEq, Repr

namespace KeySet

def record : Record KeySet := KeySet.mk <$> .required "keys" (Decode.sequence Jwk.decode)

def decode : Decoder KeySet := record.decode "KeySet"

def toJson (s : KeySet) : Value := .object [("keys", .array (s.keys.map Jwk.toJson))]

end KeySet

/-- Keys in the order of their ids. Each key carries the id under which it is found. -/
structure KeyRing where
  entries : List (String × Jwk)
  ascending : Keyed.Ascending entries
  named : ∀ x ∈ entries, x.2.kid = some x.1

namespace KeyRing

def empty : KeyRing := ⟨[], Keyed.ascending_nil, by simp⟩

def get? (r : KeyRing) (kid : String) : Option Jwk := r.entries.lookup kid

def ids (r : KeyRing) : List String := r.entries.map Prod.fst

def size (r : KeyRing) : Nat := r.entries.length

/-- The id of the only key, if there is exactly one. -/
def soleId? (r : KeyRing) : Option String :=
  match r.entries with
  | [(kid, _)] => some kid
  | _ => none

/-- The public parts of the keys that have one. -/
def publicKeys (r : KeyRing) : List (String × Jwk) :=
  r.entries.filterMap fun x ↦ x.2.public?.map fun k ↦ (x.1, k)

/-- Puts a key in under an id, which becomes its own. -/
def insert (r : KeyRing) (kid : String) (k : Jwk) : KeyRing where
  entries := Keyed.insert kid { k with kid := some kid } r.entries
  ascending := Keyed.ascending_insert r.ascending
  named x hx := by
    rcases Keyed.mem_insert hx with rfl | h
    · rfl
    · exact r.named x h

/-- Puts keys in one after the other; an id must not come twice. -/
def add (r : KeyRing) : List (String × Jwk) → Except Error KeyRing
  | [] => .ok r
  | (kid, k) :: rest =>
    if kid ∈ r.ids then .error (.duplicateKeyId kid) else add (r.insert kid k) rest

def ofList (keys : List (String × Jwk)) : Except Error KeyRing := add empty keys

/-- The keys with their own ids; the first of them stands at `index`. -/
def withIds (index : Nat) : List Jwk → Except Error (List (String × Jwk))
  | [] => .ok []
  | k :: rest =>
    if k.id = "" then .error (.missingKeyId index)
    else do
      let more ← withIds (index + 1) rest
      return (k.id, k) :: more

def ofKeySet (s : KeySet) : Except Error KeyRing := do
  let keys ← withIds 0 s.keys
  ofList keys

/-- Reads a key-set document. -/
def parse (document : String) : Except Error KeyRing :=
  match KeySet.decode.run document with
  | .ok s => ofKeySet s
  | .error e => .error (.keyStore ("invalid JWK set: " ++ e.message))

end KeyRing

/-- What is found under the path of a key-set document. -/
inductive StoredFile where
  | absent
  | directory
  | content (bytes : Bytes)
deriving DecidableEq, Repr

namespace StoredFile

/-- The text of a file, or why there is none. -/
def text : StoredFile → Except String String
  | .absent => .error "No such file or directory (os error 2)"
  | .directory => .error "Is a directory (os error 21)"
  | .content bs =>
    match Text.ofUtf8? bs with
    | some s => .ok s
    | none => .error "stream did not contain valid UTF-8"

end StoredFile

/-- Reads the key-set document that is stored under a path. -/
def KeyRing.load (path : String) (file : StoredFile) : Except Error KeyRing :=
  match file.text with
  | .ok document => KeyRing.parse document
  | .error reason => .error (.keyStore ("cannot read " ++ path ++ ": " ++ reason))

end SignOn.Jose
