import SignOn.Error
import SignOn.Jose.Service
import SignOn.Logging

/-! # Settings from variables -/

namespace SignOn

open Jose Text

structure Settings where
  serviceName : String
  issuer : String
  keyStorePath : String
  encryptionKeyId : Option String
  decryptionKeyId : Option String
  signingKeyId : Option String
  signingAlgorithm : Option SignatureAlgorithm
  encryptionAlgorithm : Option KeyManagement
  encryptionMethod : Option ContentCipher
  logLevel : String
  logFormat : LogFormat
deriving DecidableEq, Repr

namespace Settings

/-- The names of all variables that matter. -/
def names : List String :=
  ["SSO_SERVICE_NAME", "SSO_ISSUER", "SSO_KEYSTORE_PATH", "JOSE_DEFAULT_ENCRYPTION_KEY_ID",
    "JOSE_DEFAULT_DECRYPTION_KEY_ID", "JOSE_DEFAULT_SIGNING_KEY_ID",
    "JOSE_DEFAULT_SIGNING_ALGORITHM", "JOSE_DEFAULT_ENCRYPTION_ALGORITHM",
    "JOSE_DEFAULT_ENCRYPTION_METHOD", "LOG_LEVEL", "LOG_FORMAT"]

/-- The value of a variable. A blank one is not set. -/
def value? (lookup : String → Option String) (name : String) : Option String :=
  nonBlank? (lookup name)

/-- The value of a variable, read from its text without the blanks around it. -/
def parsed {α : Type} (lookup : String → Option String) (name : String)
    (parse : String → Except String α) : Except ConfigError (Option α) :=
  match value? lookup name with
  | none => .ok none
  | some text =>
    match parse (trim text) with
    | .ok a => .ok (some a)
    | .error reason => .error ⟨name, reason⟩

/-- A reader whose errors are texts. -/
def withMessage {ε α : Type} (message : ε → String) (parse : String → Except ε α) :
    String → Except String α :=
  fun s ↦ (parse s).mapError message

def ofLookup (lookup : String → Option String) : Except ConfigError Settings := do
  let text (name standard : String) := (value? lookup name).getD standard
  let signingAlgorithm ← parsed lookup "JOSE_DEFAULT_SIGNING_ALGORITHM"
    (withMessage Jose.Error.message SignatureAlgorithm.parse)
  let encryptionAlgorithm ← parsed lookup "JOSE_DEFAULT_ENCRYPTION_ALGORITHM"
    (withMessage Jose.Error.message KeyManagement.parse)
  let encryptionMethod ← parsed lookup "JOSE_DEFAULT_ENCRYPTION_METHOD"
    (withMessage Jose.Error.message ContentCipher.parse)
  let logFormat ← parsed lookup "LOG_FORMAT"
    (withMessage LogFormat.errorMessage LogFormat.parse)
  return {
    serviceName := text "SSO_SERVICE_NAME" "sso-authz"
    issuer := text "SSO_ISSUER" "https://sso.example.com"
    keyStorePath := text "SSO_KEYSTORE_PATH" "keystore.jwks.json"
    encryptionKeyId := value? lookup "JOSE_DEFAULT_ENCRYPTION_KEY_ID"
    decryptionKeyId := value? lookup "JOSE_DEFAULT_DECRYPTION_KEY_ID"
    signingKeyId := value? lookup "JOSE_DEFAULT_SIGNING_KEY_ID"
    signingAlgorithm
    encryptionAlgorithm
    encryptionMethod
    logLevel := text "LOG_LEVEL" "info"
    logFormat := logFormat.getD .json }

def defaults (s : Settings) : Defaults where
  encryptionKeyId := s.encryptionKeyId
  decryptionKeyId := s.decryptionKeyId
  signingKeyId := s.signingKeyId
  signingAlgorithm := s.signingAlgorithm
  encryptionAlgorithm := s.encryptionAlgorithm
  encryptionMethod := s.encryptionMethod

def logging (s : Settings) : Logging := ⟨s.serviceName, s.logLevel, s.logFormat⟩

end Settings

end SignOn
