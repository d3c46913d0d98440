import SignOn.Activity
import SignOn.Jose.Service

/-! # The operations of a service, each of them counted -/

namespace SignOn.Activity

open Jose Json

def encrypt (s : Service) (r : Entropy) (plaintext : Bytes) (kid : Option String)
    (options : EncryptOptions) : Activity (Except Jose.Error EncryptedToken) :=
  observe .encrypt (s.encryptWith r plaintext kid options)

def decrypt (s : Service) (token : String) (kid : Option String) :
    Activity (Except Jose.Error Bytes) :=
  observe .decrypt (s.decrypt token kid)

def sign (s : Service) (r : Entropy) (claims : Value) (kid : Option String)
    (algorithm : Option SignatureAlgorithm) : Activity (Except Jose.Error SignedToken) :=
  observe .sign (s.sign r claims kid algorithm)

def verify {α : Type} (s : Service) (d : Decoder α) (token : String) (kid : Option String) :
    Activity (Except Jose.Error α) :=
  observe .verify (s.verify d token kid)

end SignOn.Activity
