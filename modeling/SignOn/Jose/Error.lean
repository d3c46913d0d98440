/-! # Errors of keys and tokens -/

namespace SignOn.Jose

inductive Operation where
  | encrypt
  | decrypt
  | sign
  | verify
deriving DecidableEq, Repr

def Operation.name : Operation → String
  | .encrypt => "encrypt"
  | .decrypt => "decrypt"
  | .sign => "sign"
  | .verify => "verify"

/-- What goes wrong with keys and tokens. No error holds key material or a plaintext. -/
inductive Error where
  | duplicateKeyId (kid : String)
  | missingKeyId (index : Nat)
  | invalidKeyMaterial (kid reason : String)
  | unsupportedAlgorithm (algorithm : String) (kid : Option String)
  | noDefaultKey (operation : Operation)
  | noUsableKeys (operation : Operation)
  | unknownKeyId (kid : String) (operation : Operation)
  | encryptionFailed (kid reason : String)
  | decryptionFailed (kid reason : String)
  | signingFailed (kid reason : String)
  | verificationFailed (kid reason : String)
  | keyStore (reason : String)
deriving DecidableEq, Repr

namespace Error

def quoted (s : String) : String := "'" ++ s ++ "'"

def message : Error → String
  | .duplicateKeyId kid => "duplicate key id " ++ quoted kid
  | .missingKeyId index => "key at position " ++ toString index ++ " has no key id"
  | .invalidKeyMaterial kid reason => "invalid key material for " ++ quoted kid ++ ": " ++ reason
  | .unsupportedAlgorithm algorithm none => "unsupported algorithm " ++ quoted algorithm
  | .unsupportedAlgorithm algorithm (some kid) =>
    "unsupported algorithm " ++ quoted algorithm ++ " for key " ++ quoted kid
  | .noDefaultKey op => "no default key for " ++ op.name ++ "; an explicit key id is required"
  | .noUsableKeys op => "no usable key for " ++ op.name
  | .unknownKeyId kid op => "unknown key id " ++ quoted kid ++ " for " ++ op.name
  | .encryptionFailed kid reason => "encryption with key " ++ quoted kid ++ " failed: " ++ reason
  | .decryptionFailed kid reason => "decryption with key " ++ quoted kid ++ " failed: " ++ reason
  | .signingFailed kid reason => "signing with key " ++ quoted kid ++ " failed: " ++ reason
  | .verificationFailed kid reason =>
    "verification with key " ++ quoted kid ++ " failed: " ++ reason
  | .keyStore reason => "keystore error: " ++ reason

/-- The operator has to mend the configuration. -/
def isConfiguration : Error → Bool
  | .duplicateKeyId _ | .missingKeyId _ | .noUsableKeys _ | .keyStore _ => true
  | _ => false

/-- The caller has to name a key. -/
def isResolution : Error → Bool
  | .noDefaultKey _ | .unknownKeyId _ _ => true
  | _ => false

end Error

/-- How building something from keys ends without it: with an error, or because a difference of
natural numbers that it takes would be negative. -/
inductive Failure where
  | error (e : Error)
  | negativeDifference
deriving DecidableEq, Repr

instance : MonadLift (Except Error) (Except Failure) where
  monadLift
    | .ok a => .ok a
    | .error e => .error (.error e)

end SignOn.Jose
