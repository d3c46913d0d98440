import SignOn.App
import SignOn.Error

/-! # The claims of tokens, and how they are put together -/

namespace SignOn

open Json

structure Claims where
  iss : String
  sub : String
  aud : List String
  jti : String
  iat : Int64
  exp : Int64
  email : Option String
  name : Option String
  userId : Option String
  externalId : Option String
  locale : Option String
  onlineTicket : Option String
  kid : Option String
deriving DecidableEq, Repr

namespace Claims

/-- The optional claims, in the order in which they are written. -/
def optionalFields (c : Claims) : List (String × Option String) :=
  [("email", c.email), ("name", c.name), ("user_id", c.userId), ("external_id", c.externalId),
    ("locale", c.locale), ("online_ticket", c.onlineTicket), ("kid", c.kid)]

def toJson (c : Claims) : Value :=
  .object ([("iss", .string c.iss), ("sub", .string c.sub), ("aud", .strings c.aud),
    ("jti", .string c.jti), ("iat", .int c.iat), ("exp", .int c.exp)] ++
    Jose.Jwk.present c.optionalFields)

def record : Record Claims :=
  Claims.mk <$> .required "iss" Decode.string <*> .required "sub" Decode.string <*>
    .required "aud" (Decode.sequence Decode.string) <*> .required "jti" Decode.string <*>
    .required "iat" Decode.integer <*> .required "exp" Decode.integer <*>
    .optional "email" Decode.string <*> .optional "name" Decode.string <*>
    .optional "user_id" Decode.string <*> .optional "external_id" Decode.string <*>
    .optional "locale" Decode.string <*> .optional "online_ticket" Decode.string <*>
    .optional "kid" Decode.string

def decode : Decoder Claims := record.decode "SsoClaims"

def lifetimeSeconds (c : Claims) : Int64 := c.exp - c.iat

end Claims

/-- Claims in the making. -/
structure ClaimsDraft where
  issuer : String
  subject : Option String
  audience : List String
  lifetimeMinutes : Int64
  issuedAt : Option Int64
  email : Option String
  name : Option String
  userId : Option String
  externalId : Option String
  locale : Option String
  onlineTicket : Option String
  kid : Option String
deriving DecidableEq, Repr

namespace ClaimsDraft

def start (issuer : String) : ClaimsDraft :=
  ⟨issuer, none, [], 0, none, none, none, none, none, none, none, none⟩

/-- Takes the subject and the whole profile from a user. -/
def principal (d : ClaimsDraft) (p : Principal) : ClaimsDraft :=
  { d with
    subject := some p.username
    userId := if p.userId = "" then none else some p.userId
    externalId := p.externalId
    email := p.email
    name := p.displayName
    locale := p.locale
    onlineTicket := p.sessionTicketId }

def withSubject (d : ClaimsDraft) (s : String) : ClaimsDraft := { d with subject := some s }

/-- Adds one more to those for whom the token is. -/
def addAudience (d : ClaimsDraft) (s : String) : ClaimsDraft :=
  { d with audience := d.audience ++ [s] }

def withLifetime (d : ClaimsDraft) (minutes : Int64) : ClaimsDraft :=
  { d with lifetimeMinutes := minutes }

/-- Sets the time of issue, in whole seconds since 1970. -/
def withIssuedAt (d : ClaimsDraft) (seconds : Int64) : ClaimsDraft :=
  { d with issuedAt := some seconds }

def withKeyId (d : ClaimsDraft) (kid : Option String) : ClaimsDraft := { d with kid := kid }

/-- The number, if it fits 64 bits. -/
def fit? (n : Int) : Option Int64 :=
  if Int64.minValue.toInt ≤ n ∧ n ≤ Int64.maxValue.toInt then some (Int64.ofInt n) else none

/-- The time at which a token issued at `iat` expires, if it lives at all and times can tell. -/
def expiry? (minutes iat : Int64) : Option Int64 :=
  if minutes ≤ 0 then none
  else do
    let seconds ← fit? (minutes.toInt * 60)
    fit? (iat.toInt + seconds.toInt)

/-- The claims, issued `now` if no other time was set. -/
def build (d : ClaimsDraft) (now : Int64) (jti : String) : Except IssuanceError Claims :=
  let iat := d.issuedAt.getD now
  match expiry? d.lifetimeMinutes iat with
  | none => .error (.invalidLifetime (String.intercalate "," d.audience) d.lifetimeMinutes)
  | some exp =>
    match d.subject with
    | none => .error (.missingClaim "sub")
    | some sub =>
      .ok ⟨d.issuer, sub, d.audience, jti, iat, exp, d.email, d.name, d.userId, d.externalId,
        d.locale, d.onlineTicket, d.kid⟩

end ClaimsDraft

end SignOn
