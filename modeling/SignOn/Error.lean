import SignOn.Jose.Error

/-! # Errors of authorization, and what is told about them -/

namespace SignOn

/-- A setting that does not hold what its name says. -/
structure ConfigError where
  name : String
  reason : String
deriving DecidableEq, Repr

def ConfigError.message (e : ConfigError) : String := "invalid " ++ e.name ++ ": " ++ e.reason

inductive DispatchError where
  | appNotFound (appId : String)
  | unsupportedProtocol (appId protocol : String)
  | missingLoginUrl (appId protocol : String)
  | repository (reason : String)
deriving DecidableEq, Repr

namespace DispatchError

/-- What a failed lookup says of itself. -/
def unavailable (reason : String) : String := "repository unavailable: " ++ reason

def message : DispatchError → String
  | .appNotFound appId => "application not found: " ++ appId
  | .unsupportedProtocol appId protocol =>
    "unsupported protocol '" ++ protocol ++ "' for application " ++ appId
  | .missingLoginUrl appId protocol =>
    "application " ++ appId ++ " uses " ++ protocol ++ " but has no login URL"
  | .repository reason => "application repository error: " ++ unavailable reason

end DispatchError

inductive IssuanceError where
  | invalidLifetime (appId : String) (minutes : Int64)
  | missingClaim (claim : String)
  | tokenIssuanceFailed (appId : String) (source : Jose.Error)
  | encryptionFailed (appId : String) (source : Jose.Error)
  | missingRedirectUri (appId : String)
deriving DecidableEq, Repr

namespace IssuanceError

def message : IssuanceError → String
  | .invalidLifetime appId minutes =>
    "invalid token lifetime " ++ toString minutes.toInt ++ " minutes for application " ++ appId
  | .missingClaim claim => "missing claim '" ++ claim ++ "'"
  | .tokenIssuanceFailed appId source =>
    "token issuance failed for application " ++ appId ++ ": " ++ source.message
  | .encryptionFailed appId source =>
    "token encryption failed for application " ++ appId ++ ": " ++ source.message
  | .missingRedirectUri appId => "application " ++ appId ++ " has no redirect URI"

/-- The error of keys or tokens that is behind the error. -/
def source? : IssuanceError → Option Jose.Error
  | .tokenIssuanceFailed _ source | .encryptionFailed _ source => some source
  | _ => none

end IssuanceError

/-- Why an authorization fails. -/
inductive AuthzError where
  | dispatch (e : DispatchError)
  | issuance (e : IssuanceError)
  | jose (e : Jose.Error)
  | config (e : ConfigError)
deriving DecidableEq, Repr

namespace AuthzError

def message : AuthzError → String
  | .dispatch e => e.message
  | .issuance e => e.message
  | .jose e => e.message
  | .config e => e.message

/-- The text of the error behind the error. -/
def cause? : AuthzError → Option String
  | .dispatch (.repository reason) => some (DispatchError.unavailable reason)
  | .issuance e => e.source?.map Jose.Error.message
  | _ => none

def configurationCode : String := "AUTHZ_CONFIGURATION_ERROR"

def joseCode (e : Jose.Error) : String :=
  if e.isConfiguration then configurationCode
  else if e.isResolution then "AUTHZ_KEY_RESOLUTION_ERROR"
  else "AUTHZ_CRYPTO_ERROR"

/-- The code by which an operator finds the error. -/
def code : AuthzError → String
  | .dispatch (.appNotFound _) => "AUTHZ_APP_NOT_FOUND"
  | .dispatch (.repository _) => "AUTHZ_UNAVAILABLE"
  | .dispatch _ | .config _ => configurationCode
  | .issuance e =>
    match e.source? with
    | some source => joseCode source
    | none => configurationCode
  | .jose e => joseCode e

/-- All that a user is told. -/
def userMessage (_ : AuthzError) : String :=
  "Authorization failed. Please contact your administrator."

end AuthzError

end SignOn
