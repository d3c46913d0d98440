import SignOn.Crypto.Rsa.Signature
import SignOn.Jose.Error
import SignOn.Text.Blank
import SignOn.Text.Letter

/-! # Names of algorithms -/

namespace SignOn.Jose

open Text Crypto

/-- How the key of a token's content is agreed on. -/
inductive KeyManagement where
  | rsaOaep256
  | direct
deriving DecidableEq, Repr

/-- How the content of a token is encrypted. -/
inductive ContentCipher where
  | a128gcm
  | a256gcm
deriving DecidableEq, Repr

/-- How a token is signed. -/
inductive SignatureAlgorithm where
  | rs256
  | rs384
  | rs512
  | ps256
  | ps384
  | ps512
  | hs256
  | hs384
  | hs512
deriving DecidableEq, Repr

/-- The value whose name a text is, up to blanks around it and the case of ASCII letters. -/
def parseName {α : Type} (all : List α) (name : α → String) (s : String) : Except Error α :=
  match all.find? (fun a ↦ EqFold (trim s) (name a)) with
  | some a => .ok a
  | none => .error (.unsupportedAlgorithm s none)

namespace KeyManagement

def all : List KeyManagement := [.rsaOaep256, .direct]

def name : KeyManagement → String
  | .rsaOaep256 => "RSA-OAEP-256"
  | .direct => "dir"

def parse (s : String) : Except Error KeyManagement := parseName all name s

def describe : KeyManagement → String
  | .rsaOaep256 => "RsaOaep256"
  | .direct => "Dir"

theorem mem_all (a : KeyManagement) : a ∈ all := by cases a <;> decide

end KeyManagement

namespace ContentCipher

def all : List ContentCipher := [.a128gcm, .a256gcm]

def name : ContentCipher → String
  | .a128gcm => "A128GCM"
  | .a256gcm => "A256GCM"

/-- The length of the key in bytes. -/
def keyLength : ContentCipher → Nat
  | .a128gcm => 16
  | .a256gcm => 32

def ofKeyLength? (n : Nat) : Option ContentCipher := all.find? (fun m ↦ m.keyLength = n)

def parse (s : String) : Except Error ContentCipher := parseName all name s

def describe : ContentCipher → String
  | .a128gcm => "A128Gcm"
  | .a256gcm => "A256Gcm"

theorem mem_all (m : ContentCipher) : m ∈ all := by cases m <;> decide

theorem ofKeyLength?_eq_some_iff {n : Nat} {m : ContentCipher} :
    ofKeyLength? n = some m ↔ m.keyLength = n := by
  by_cases h16 : n = 16
  · subst h16; cases m <;> decide
  by_cases h32 : n = 32
  · subst h32; cases m <;> decide
  cases m <;> simp [ofKeyLength?, all, keyLength, Ne.symm h16, Ne.symm h32]

end ContentCipher

namespace SignatureAlgorithm

/-- The algorithms of RSA keys. -/
def rsa : List SignatureAlgorithm := [.rs256, .rs384, .rs512, .ps256, .ps384, .ps512]

/-- The algorithms of shared secrets, the weakest first. -/
def hmac : List SignatureAlgorithm := [.hs256, .hs384, .hs512]

def all : List SignatureAlgorithm := rsa ++ hmac

def name : SignatureAlgorithm → String
  | .rs256 => "RS256"
  | .rs384 => "RS384"
  | .rs512 => "RS512"
  | .ps256 => "PS256"
  | .ps384 => "PS384"
  | .ps512 => "PS512"
  | .hs256 => "HS256"
  | .hs384 => "HS384"
  | .hs512 => "HS512"

def hash : SignatureAlgorithm → Hash
  | .rs256 | .ps256 | .hs256 => .sha256
  | .rs384 | .ps384 | .hs384 => .sha384
  | .rs512 | .ps512 | .hs512 => .sha512

/-- The padding of an RSA signature; an algorithm of shared secrets has none. -/
def padding? : SignatureAlgorithm → Option Rsa.Padding
  | .rs256 | .rs384 | .rs512 => some .fixed
  | .ps256 | .ps384 | .ps512 => some .salted
  | .hs256 | .hs384 | .hs512 => none

def isHmac (a : SignatureAlgorithm) : Bool := a.padding?.isNone

/-- The length in bytes that a shared secret must have at least. -/
def minSecretLength? : SignatureAlgorithm → Option Nat
  | .hs256 => some 32
  | .hs384 => some 48
  | .hs512 => some 64
  | _ => none

/-- The algorithms that a shared secret is long enough for. -/
def forSecretLength (n : Nat) : List SignatureAlgorithm :=
  hmac.filter fun a ↦ a.minSecretLength?.any (· ≤ n)

def parse (s : String) : Except Error SignatureAlgorithm := parseName all name s

theorem mem_all (a : SignatureAlgorithm) : a ∈ all := by cases a <;> decide

end SignatureAlgorithm

/-- The algorithms that the header of a signed token may name. Those with elliptic curves are known
but not supported. -/
inductive HeaderAlgorithm where
  | supported (a : SignatureAlgorithm)
  | es256
  | es384
  | eddsa
deriving DecidableEq, Repr

namespace HeaderAlgorithm

def all : List HeaderAlgorithm :=
  [.supported .hs256, .supported .hs384, .supported .hs512, .es256, .es384, .supported .rs256,
    .supported .rs384, .supported .rs512, .supported .ps256, .supported .ps384, .supported .ps512,
    .eddsa]

def name : HeaderAlgorithm → String
  | .supported a => a.name
  | .es256 => "ES256"
  | .es384 => "ES384"
  | .eddsa => "EdDSA"

def ofName? (s : String) : Option HeaderAlgorithm := all.find? (fun a ↦ a.name = s)

def toSupported : HeaderAlgorithm → Except Error SignatureAlgorithm
  | .supported a => .ok a
  | a => .error (.unsupportedAlgorithm a.name none)

end HeaderAlgorithm

end SignOn.Jose
