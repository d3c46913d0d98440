import SignOn.Json.Record

/-! # JSON Web Keys -/

namespace SignOn.Jose

open Json

/-- What the type of a key makes of it. -/
inductive KeyKind where
  | rsa
  | octets
  | ellipticCurve
  | octetPair
  | other (kty : String)
deriving DecidableEq, Repr

namespace KeyKind

def ofType (kty : String) : KeyKind :=
  if kty = "RSA" then .rsa
  else if kty = "oct" then .octets
  else if kty = "EC" then .ellipticCurve
  else if kty = "OKP" then .octetPair
  else .other kty

/-- Keys of this kind have a public part. -/
def hasPublicPart : KeyKind → Bool
  | .rsa | .ellipticCurve | .octetPair => true
  | .octets | .other _ => false

def describe : KeyKind → String
  | .rsa => "Rsa"
  | .octets => "Oct"
  | .ellipticCurve => "Ec"
  | .octetPair => "Okp"
  | .other kty => "Other(" ++ Text.quote kty ++ ")"

end KeyKind

/-- The members of a key that are never published. -/
structure SecretMembers where
  d : Option String
  p : Option String
  q : Option String
  dp : Option String
  dq : Option String
  qi : Option String
  k : Option String
deriving DecidableEq, Repr

namespace SecretMembers

def none : SecretMembers := ⟨.none, .none, .none, .none, .none, .none, .none⟩

/-- The members with their names, in the order in which they are written. -/
def fields (s : SecretMembers) : List (String × Option String) :=
  [("d", s.d), ("p", s.p), ("q", s.q), ("dp", s.dp), ("dq", s.dq), ("qi", s.qi), ("k", s.k)]

def isEmpty (s : SecretMembers) : Bool := s.fields.all fun f ↦ f.2.isNone

def record : Record SecretMembers :=
  SecretMembers.mk <$> .optional "d" Decode.string <*> .optional "p" Decode.string <*>
    .optional "q" Decode.string <*> .optional "dp" Decode.string <*>
    .optional "dq" Decode.string <*> .optional "qi" Decode.string <*>
    .optional "k" Decode.string

end SecretMembers

/-- A key. Its members are kept as they were written, decoded only when they are used. -/
structure Jwk where
  kty : String
  kid : Option String
  use : Option String
  alg : Option String
  n : Option String
  e : Option String
  crv : Option String
  x : Option String
  y : Option String
  secret : SecretMembers
deriving DecidableEq, Repr

namespace Jwk

def kind (k : Jwk) : KeyKind := .ofType k.kty

/-- The id of the key, which may be empty. -/
def id (k : Jwk) : String := k.kid.getD ""

/-- The member that makes a key of its kind private is there. -/
def isPrivate (k : Jwk) : Bool :=
  match k.kind with
  | .octets => k.secret.k.isSome
  | _ => k.secret.d.isSome

/-- The key without its secret members, if there is then anything to publish. -/
def public? (k : Jwk) : Option Jwk :=
  if k.kind.hasPublicPart then some { k with secret := .none } else none

def hasSecretMembers (k : Jwk) : Bool := !k.secret.isEmpty

/-- The optional members that are published, in the order in which they are written. -/
def publicFields (k : Jwk) : List (String × Option String) :=
  [("kid", k.kid), ("use", k.use), ("alg", k.alg), ("n", k.n), ("e", k.e), ("crv", k.crv),
    ("x", k.x), ("y", k.y)]

/-- The members that are there. -/
def present (fields : List (String × Option String)) : List (String × Value) :=
  fields.filterMap fun f ↦ f.2.map fun s ↦ (f.1, .string s)

def toJson (k : Jwk) : Value :=
  .object (("kty", .string k.kty) :: present (k.publicFields ++ k.secret.fields))

def record : Record (SecretMembers → Jwk) :=
  Jwk.mk <$> .required "kty" Decode.string <*> .optional "kid" Decode.string <*>
    .optional "use" Decode.string <*> .optional "alg" Decode.string <*>
    .optional "n" Decode.string <*> .optional "e" Decode.string <*>
    .optional "crv" Decode.string <*> .optional "x" Decode.string <*>
    .optional "y" Decode.string

def decode : Decoder Jwk := Record.decodeWithin "Jwk" record SecretMembers.record

/-- A description of the key that tells whether it is private, but no material. -/
def describe (k : Jwk) : String :=
  "Jwk \x7b kty: " ++ Text.quote k.kty ++ ", kid: " ++ Text.quoteOption k.kid ++ ", use: " ++
    Text.quoteOption k.use ++ ", alg: " ++ Text.quoteOption k.alg ++ ", private: " ++
    toString k.isPrivate ++ ", .. \x7d"

end Jwk

end SignOn.Jose
