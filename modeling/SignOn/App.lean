import SignOn.Jose.Encryption

/-! # Applications and the users who sign on to them -/

namespace SignOn

open Json Jose

/-- How the tokens of an application are encrypted; what is left out is chosen by default. -/
structure TokenEncryption where
  keyId : Option String
  algorithm : Option KeyManagement
  method : Option ContentCipher
deriving DecidableEq, Repr

namespace TokenEncryption

def algorithmNames : List (String × KeyManagement) :=
  EncryptionHeader.named KeyManagement.all KeyManagement.name

def methodNames : List (String × ContentCipher) :=
  EncryptionHeader.named ContentCipher.all ContentCipher.name

def record : Record TokenEncryption :=
  TokenEncryption.mk <$> .defaulted "key_id" (Decode.nullable Decode.string) none <*>
    .defaulted "algorithm" (Decode.nullable (Decode.oneOf algorithmNames)) none <*>
    .defaulted "method" (Decode.nullable (Decode.oneOf methodNames)) none

def decode : Decoder TokenEncryption := record.decode "TokenEncryption"

def toJson (w : TokenEncryption) : Value :=
  .object [("key_id", .stringOrNull w.keyId),
    ("algorithm", .stringOrNull (w.algorithm.map KeyManagement.name)),
    ("method", .stringOrNull (w.method.map ContentCipher.name))]

end TokenEncryption

/-- An application as its owner registered it. -/
structure App where
  id : String
  name : String
  protocol : String
  loginUrl : Option String
  redirectUri : Option String
  lifetimeMinutes : Int64
  tokenEncryption : Option TokenEncryption
deriving DecidableEq, Repr

namespace App

def record : Record App :=
  App.mk <$> .required "id" Decode.string <*> .defaulted "name" Decode.string "" <*>
    .required "protocol" Decode.string <*>
    .defaulted "login_url" (Decode.nullable Decode.string) none <*>
    .defaulted "redirect_uri" (Decode.nullable Decode.string) none <*>
    .required "lifetime_minutes" Decode.integer <*>
    .defaulted "token_encryption" (Decode.nullable TokenEncryption.decode) none

def decode : Decoder App := record.decode "App"

def toJson (a : App) : Value :=
  .object [("id", .string a.id), ("name", .string a.name), ("protocol", .string a.protocol),
    ("login_url", .stringOrNull a.loginUrl), ("redirect_uri", .stringOrNull a.redirectUri),
    ("lifetime_minutes", .int a.lifetimeMinutes),
    ("token_encryption",
      match a.tokenEncryption with
      | some w => w.toJson
      | none => .null)]

end App

/-- A user who is signed on. -/
structure Principal where
  username : String
  userId : String
  externalId : Option String
  email : Option String
  displayName : Option String
  locale : Option String
  sessionTicketId : Option String
deriving DecidableEq, Repr

namespace Principal

def record : Record Principal :=
  Principal.mk <$> .required "username" Decode.string <*> .required "user_id" Decode.string <*>
    .defaulted "external_id" (Decode.nullable Decode.string) none <*>
    .defaulted "email" (Decode.nullable Decode.string) none <*>
    .defaulted "display_name" (Decode.nullable Decode.string) none <*>
    .defaulted "locale" (Decode.nullable Decode.string) none <*>
    .defaulted "session_ticket_id" (Decode.nullable Decode.string) none

def decode : Decoder Principal := record.decode "Principal"

def toJson (p : Principal) : Value :=
  .object [("username", .string p.username), ("user_id", .string p.userId),
    ("external_id", .stringOrNull p.externalId), ("email", .stringOrNull p.email),
    ("display_name", .stringOrNull p.displayName), ("locale", .stringOrNull p.locale),
    ("session_ticket_id", .stringOrNull p.sessionTicketId)]

end Principal

/-- Where applications are looked up. A lookup may fail for a reason. -/
abbrev AppLookup := String → Except String (Option App)

/-- Applications held in memory, under their ids. -/
structure AppStore where
  apps : List (String × App)

namespace AppStore

def empty : AppStore := ⟨[]⟩

/-- Puts an application in, instead of one with the same id. -/
def insert (s : AppStore) (a : App) : AppStore := ⟨Keyed.insert a.id a s.apps⟩

def ofList (apps : List App) : AppStore := apps.foldl insert empty

def find? (s : AppStore) (id : String) : Option App := s.apps.lookup id

def lookup (s : AppStore) : AppLookup := fun id ↦ .ok (s.find? id)

end AppStore

end SignOn
