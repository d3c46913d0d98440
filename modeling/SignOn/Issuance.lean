import SignOn.Claims
import SignOn.Dispatch
import SignOn.Operations

/-! # Issuing tokens and delivering them to applications -/

namespace SignOn

open Jose Json Text

/-- A token on its way to an application, and what is in it. -/
structure IssuedToken where
  token : String
  claims : Claims
  keyId : String
  algorithm : SignatureAlgorithm
  encrypted : Bool
deriving DecidableEq, Repr

inductive DeliveryMethod where
  | post
  | get
deriving DecidableEq, Repr

namespace DeliveryMethod

def name : DeliveryMethod → String
  | .post => "POST"
  | .get => "GET"

def describe : DeliveryMethod → String
  | .post => "Post"
  | .get => "Get"

end DeliveryMethod

/-- Where the browser goes, how, and with which parameters. -/
structure Delivery where
  action : String
  method : DeliveryMethod
  parameters : List (String × String)
deriving DecidableEq, Repr

namespace Delivery

/-- The value of the first parameter with a name. -/
def parameter? (d : Delivery) (name : String) : Option String := d.parameters.lookup name

def members (d : Delivery) : List (String × Value) :=
  [("action", .string d.action), ("method", .string d.method.name),
    ("parameters", .array (d.parameters.map fun p ↦ .array [.string p.1, .string p.2]))]

def toJson (d : Delivery) : Value := .object d.members

/-- A description that names the parameters, but not their values, which are tokens. -/
def describe (d : Delivery) : String :=
  "Delivery \x7b action: " ++ quote d.action ++ ", method: " ++ d.method.describe ++
    ", parameters: " ++ bracket (d.parameters.map fun p ↦ quote p.1) ++ " \x7d"

end Delivery

/-- What the outside world contributes to a request: random bytes and the time in seconds. -/
structure Moment where
  entropy : Entropy
  now : Int64

/-- An issuer of tokens, as it stands during one request. -/
structure TokenIssuer where
  issuer : String
  service : Service
  moment : Moment

namespace TokenIssuer

/-- The claims of a user for an application, signed by the key with an id. -/
def draft (x : TokenIssuer) (p : Principal) (a : App) (kid : Option String) : ClaimsDraft :=
  ClaimsDraft.start x.issuer |>.principal p |>.addAudience a.id
    |>.withLifetime a.lifetimeMinutes |>.withKeyId kid

def options (w : TokenEncryption) : EncryptOptions := ⟨w.algorithm, w.method, some "JWT"⟩

/-- Puts a signed token into an encrypted one, if the application asks for that. -/
def wrap (x : TokenIssuer) (a : App) (signed : SignedToken) :
    Activity (Except IssuanceError (String × Bool)) := do
  match a.tokenEncryption with
  | none => return .ok (signed.compact, false)
  | some w =>
    let wrapped ← Activity.encrypt x.service x.moment.entropy (utf8 signed.compact) w.keyId
      (options w)
    match wrapped with
    | .ok t => return .ok (t.compact, true)
    | .error e => return .error (.encryptionFailed a.id e)

/-- Issues a token for a user of an application. -/
def issue (x : TokenIssuer) (p : Principal) (a : App) :
    Activity (Except IssuanceError IssuedToken) := do
  let kid := x.service.defaultSigningKeyId
  match (x.draft p a kid).build x.moment.now x.moment.entropy.uuid with
  | .error e => return .error e
  | .ok claims =>
    let signed ← Activity.sign x.service x.moment.entropy claims.toJson kid none
    match signed with
    | .error e => return .error (.tokenIssuanceFailed a.id e)
    | .ok signed =>
      match ← x.wrap a signed with
      | .error e => return .error e
      | .ok (token, encrypted) =>
        Activity.count (.issued Protocol.jwt.name signed.algorithm)
        return .ok ⟨token, claims, signed.keyId, signed.algorithm, encrypted⟩

/-- Encrypts a text, on behalf of the application that is being served. -/
def encrypt (x : TokenIssuer) (data : String) (kid : Option String)
    (algorithm : Option KeyManagement) : Activity (Except IssuanceError String) := do
  let encrypted ← Activity.encrypt x.service x.moment.entropy (utf8 data) kid
    ⟨algorithm, none, none⟩
  match encrypted with
  | .ok t => return .ok t.compact
  | .error e => return .error (.encryptionFailed ((← Activity.currentAppId).getD "") e)

/-- Has a token for a user posted to an application. -/
def deliver (x : TokenIssuer) (p : Principal) (a : App) :
    Activity (Except IssuanceError Delivery) := do
  match nonBlank? a.redirectUri with
  | none => return .error (.missingRedirectUri a.id)
  | some action =>
    match ← x.issue p a with
    | .error e => return .error e
    | .ok issued => return .ok ⟨action, .post, [("token", issued.token)]⟩

end TokenIssuer

end SignOn
