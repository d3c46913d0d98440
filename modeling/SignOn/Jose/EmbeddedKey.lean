import SignOn.Json.Record

/-! # Keys inside the header of a signed token

Such a key is never used. It only has to be well formed.
-/

namespace SignOn.Jose.EmbeddedKey

open Json

/-- The algorithms that a key may be meant for. -/
def algorithms : List String :=
  ["HS256", "HS384", "HS512", "ES256", "ES384", "RS256", "RS384", "RS512", "PS256", "PS384",
    "PS512", "EdDSA", "RSA1_5", "RSA-OAEP", "RSA-OAEP-256"]

def curves : List String := ["P-256", "P-384", "P-521", "Ed25519"]

/-- Names, each of which stands for itself. -/
def same (names : List String) : List (String × String) := names.map fun s ↦ (s, s)

/-- The members that keys of all types have in common. -/
def common : List (List Field) :=
  [(Record.optional "use" Decode.string).fields,
    (Record.optional "key_ops" (Decode.sequence Decode.string)).fields,
    (Record.optional "alg" (Decode.oneOfKept (same algorithms))).fields,
    (Record.optional "kid" Decode.string).fields,
    (Record.optional "x5u" Decode.string).fields,
    (Record.optional "x5c" (Decode.sequence Decode.string)).fields,
    (Record.optional "x5t" Decode.string).fields,
    (Record.optional "x5t#S256" Decode.string).fields]

def text (name : String) : List Field := (Record.required name Decode.string).fields

def choice (name : String) (names : List String) : List Field :=
  (Record.required name (Decode.oneOf (same names))).fields

/-- The members of the four types of keys. -/
def types : List (List Field) :=
  [choice "kty" ["EC"] ++ choice "crv" curves ++ text "x" ++ text "y",
    choice "kty" ["RSA"] ++ text "n" ++ text "e",
    choice "kty" ["oct"] ++ text "k",
    choice "kty" ["OKP"] ++ choice "crv" curves ++ text "x"]

/-- The members make up a key of the type that has these fields. -/
def fits (room : Nat) (values : List (String × Node)) (fields : List Field) : Bool :=
  match Record.rescan fields room [] values, Record.checkPresent fields values with
  | .ok (), .ok () => true
  | _, _ => false

def decode : Decoder Unit := fun room n ↦
  match n, room with
  | .object _, 0 => .error .malformed
  | .object ms, room + 1 => do
    let values ← Record.scan [] (fun n ↦ (fun _ ↦ ()) <$> Decode.any room n) room [] ms
    Record.rescan common.flatten room [] values
    if types.any (fits room values) then .ok () else .error .malformed
  | n, _ => .error (n.mismatch "struct Jwk")

end SignOn.Jose.EmbeddedKey
