import SignOn.Authorizer
import SignOn.Main
import SignOn.Proofs.Outcome
import SignOn.Proofs.Json.Record
import SignOn.Proofs.Text.Base64Url
import SignOn.Proofs.Crypto.Gcm
import SignOn.Proofs.Crypto.Rsa.Key
import SignOn.Proofs.Jose.Encryption
import SignOn.Proofs.Crypto.Digest
import SignOn.Proofs.Crypto.Rsa.Signature
import SignOn.Proofs.Jose.Signing
import SignOn.Proofs.Claims
import SignOn.Proofs.Issuance
import SignOn.Proofs.Crypto.Rsa.Prime
import SignOn.Proofs.Jose.PrivateKey
import SignOn.Proofs.Jose.KeyChoice
import SignOn.Proofs.DefaultSigning
import SignOn.Proofs.Jose.Construction
import SignOn.Proofs.Jose.ZeroExponent
import SignOn.Proofs.Jose.SignedClaims
import SignOn.Proofs.Dispatch
import SignOn.Proofs.Authorizer
import SignOn.Proofs.Jose.KeyDocument
import SignOn.Proofs.Publication
import SignOn.Proofs.Sharing
import SignOn.Proofs.Documents
import SignOn.Proofs.Crypto.Rsa.Size
import SignOn.Proofs.Jose.KeySize
import SignOn.Proofs.PublishedIssuer
import SignOn.Proofs.Jose.SecretFault
import SignOn.Proofs.Text.Padding
import SignOn.Proofs.Jose.PaddedNumbers
import SignOn.Proofs.Jose.AlgorithmChoice
import SignOn.Proofs.Program
import SignOn.Proofs.Counting
import SignOn.Proofs.Scopes
import SignOn.Proofs.Jose.SignatureLists
import SignOn.Proofs.Drafts
import SignOn.Proofs.Delivery
import SignOn.Proofs.Abilities
import SignOn.Proofs.ForwardPaths
import SignOn.Proofs.Jose.WrappedKey
import SignOn.Proofs.Jose.KeyHalves
import SignOn.Proofs.Crypto.Rsa.Recovery
import SignOn.Proofs.Jose.MissingFactors
import SignOn.Proofs.Names
import SignOn.Proofs.Settings
import SignOn.Proofs.Jose.ContentSteps
import SignOn.Proofs.Jose.MemberOrder
