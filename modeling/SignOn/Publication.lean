import SignOn.Jose.Service

/-! # What is published about a service: its public keys and its abilities -/

namespace SignOn

open Jose Json

/-- A document of public keys. -/
structure PublishedKeys where
  keys : List Jwk
deriving DecidableEq, Repr

namespace PublishedKeys

/-- The public parts of a service's keys. -/
def ofService (s : Service) : PublishedKeys :=
  ⟨(s.publicKeys.map Prod.snd).filter fun k ↦ !k.hasSecretMembers⟩

def record : Record PublishedKeys :=
  PublishedKeys.mk <$> .required "keys" (Decode.sequence Jwk.decode)

def decode : Decoder PublishedKeys := record.decode "Jwks"

def toJson (x : PublishedKeys) : Value := .object [("keys", .array (x.keys.map Jwk.toJson))]

end PublishedKeys

/-- The abilities of a service, for those who want to use it. -/
structure ProviderMetadata where
  issuer : String
  jwksUri : String
  signingAlgorithms : List SignatureAlgorithm
  encryptionAlgorithms : List KeyManagement
  encryptionMethods : List ContentCipher
deriving DecidableEq, Repr

namespace ProviderMetadata

/-- Where the public keys are found below the issuer. -/
def keysPath : String := "/.well-known/jwks.json"

/-- The text without the slashes at its end. -/
def trimSlashes (s : String) : String :=
  String.ofList (s.toList.reverse.dropWhile (· = '/')).reverse

def ofService (issuer : String) (s : Service) : ProviderMetadata :=
  let issuer := trimSlashes issuer
  ⟨issuer, issuer ++ keysPath, s.supportedSigningAlgorithms, s.supportedAlgorithms,
    s.supportedMethods⟩

def list {α : Type} (all : List α) (name : α → String) : Decoder (List α) :=
  Decode.sequence (Decode.oneOf (EncryptionHeader.named all name))

def record : Record ProviderMetadata :=
  ProviderMetadata.mk <$> .required "issuer" Decode.string <*>
    .required "jwks_uri" Decode.string <*>
    .required "token_signing_alg_values_supported"
      (list SignatureAlgorithm.all SignatureAlgorithm.name) <*>
    .required "token_encryption_alg_values_supported"
      (list KeyManagement.all KeyManagement.name) <*>
    .required "token_encryption_enc_values_supported"
      (list ContentCipher.all ContentCipher.name)

def decode : Decoder ProviderMetadata := record.decode "ProviderMetadata"

def toJson (m : ProviderMetadata) : Value :=
  .object [("issuer", .string m.issuer), ("jwks_uri", .string m.jwksUri),
    ("token_signing_alg_values_supported",
      .strings (m.signingAlgorithms.map SignatureAlgorithm.name)),
    ("token_encryption_alg_values_supported",
      .strings (m.encryptionAlgorithms.map KeyManagement.name)),
    ("token_encryption_enc_values_supported",
      .strings (m.encryptionMethods.map ContentCipher.name))]

end ProviderMetadata

end SignOn
