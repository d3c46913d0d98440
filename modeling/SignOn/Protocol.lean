import SignOn.Text.Blank
import SignOn.Text.Letter

/-! # The protocols by which applications sign users on -/

namespace SignOn

open Text

inductive Protocol where
  | extendApi
  | formBased
  | oauth20
  | oauth21
  | openIdConnect10
  | saml20
  | tokenBased
  | cas
  | jwt
  | basic
  | unsupported (text : String)
deriving DecidableEq, Repr

namespace Protocol

def all : List Protocol :=
  [.extendApi, .formBased, .oauth20, .oauth21, .openIdConnect10, .saml20, .tokenBased, .cas, .jwt,
    .basic]

/-- How the protocols may be spelled, in lower case. -/
def spellings : List (String × Protocol) :=
  [("extend_api", .extendApi), ("extendapi", .extendApi), ("form_based", .formBased),
    ("formbased", .formBased), ("oauth_v2.0", .oauth20), ("oauth20", .oauth20),
    ("oauth_v2.1", .oauth21), ("oauth21", .oauth21), ("openid_connect_v1.0", .openIdConnect10),
    ("oidc10", .openIdConnect10), ("openidconnect10", .openIdConnect10), ("saml_v2.0", .saml20),
    ("saml20", .saml20), ("token_based", .tokenBased), ("tokenbased", .tokenBased), ("cas", .cas),
    ("jwt", .jwt), ("basic", .basic)]

/-- Reads a protocol, whatever the case of its ASCII letters and the blanks around it. -/
def parse (s : String) : Protocol :=
  match spellings.lookup (foldAscii (trim s)) with
  | some p => p
  | none => .unsupported s

def name : Protocol → String
  | .extendApi => "Extend_API"
  | .formBased => "Form_Based"
  | .oauth20 => "OAuth_v2.0"
  | .oauth21 => "OAuth_v2.1"
  | .openIdConnect10 => "OpenID_Connect_v1.0"
  | .saml20 => "SAML_v2.0"
  | .tokenBased => "Token_Based"
  | .cas => "CAS"
  | .jwt => "JWT"
  | .basic => "Basic"
  | .unsupported text => text

/-- The start of the paths of the protocol's endpoint, if requests are forwarded to one. -/
def endpoint? : Protocol → Option String
  | .extendApi => some "/authz/api"
  | .formBased => some "/authz/formbased"
  | .oauth20 | .openIdConnect10 => some "/authz/oauth/v20"
  | .saml20 => some "/authz/saml20/idpinit"
  | .tokenBased => some "/authz/tokenbased"
  | .cas => some "/authz/cas"
  | .jwt => some "/authz/jwt"
  | .oauth21 | .basic | .unsupported _ => none

/-- Requests are sent to the login page of the application. -/
def redirects : Protocol → Bool
  | .oauth21 | .basic => true
  | _ => false

def isSupported : Protocol → Bool
  | .unsupported _ => false
  | _ => true

/-- The name under which the protocol is counted. -/
def label (p : Protocol) : String := if p.isSupported then p.name else "unsupported"

theorem mem_all_iff {p : Protocol} : p ∈ all ↔ p.isSupported = true := by
  cases p <;> simp [all, isSupported]

end Protocol

end SignOn
