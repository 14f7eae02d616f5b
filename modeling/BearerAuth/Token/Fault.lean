import BearerAuth.AuthError

/-!
# Faults of tokens and keys

What can be wrong with a token or a key, seen from inside the signature layer.  Callers outside
learn only the cause that a fault belongs to, `Fault.toAuthError`.
-/

namespace BearerAuth.Token

/-- What can be wrong with a token or a key. -/
inductive Fault where
  /-- The token does not have three segments. -/
  | malformed
  /-- A signature does not verify. -/
  | signature
  /-- An elliptic curve key does not decode. -/
  | ecKey
  /-- An Edwards curve key does not decode. -/
  | edKey
  /-- An RSA key does not decode. -/
  | rsaKey
  /-- An RSA key does not sign. -/
  | rsaSigning
  /-- Signing failed. -/
  | signing
  /-- A name names no algorithm. -/
  | algorithmName
  /-- A key is not of the form expected. -/
  | keyFormat
  /-- A claim that must be there is missing. -/
  | missingClaim
  /-- A claim has a wrong form. -/
  | claimForm
  /-- The token is expired. -/
  | expired
  /-- The token is not yet valid. -/
  | premature
  /-- The issuer is not the one expected. -/
  | issuer
  /-- The audience is not the one expected. -/
  | audience
  /-- The subject is not the one expected. -/
  | subject
  /-- The algorithm is not the one expected. -/
  | algorithm
  /-- No algorithm is allowed. -/
  | noAlgorithm
  /-- A segment is not in base 64. -/
  | base64
  /-- A segment is not the JSON text expected. -/
  | json
  /-- A segment is not UTF-8. -/
  | utf8
  /-- The cryptography in use is at fault. -/
  | provider
  deriving DecidableEq, Repr

namespace Fault

/-- The cause that a fault counts as. -/
def toAuthError : Fault → AuthError
  | signature | keyFormat => .signTokenFailed
  | expired | premature => .tokenExpired
  | algorithm | algorithmName | noAlgorithm => .unsupportedSigningMethod
  | issuer => .invalidIssuer
  | audience => .invalidAudience
  | subject => .invalidSubject
  | json | missingClaim => .invalidClaims
  | malformed | ecKey | edKey | rsaKey | rsaSigning | signing | claimForm | base64 | utf8
  | provider => .invalidToken

/-- The name of a fault, as messages about keys give it. -/
def name : Fault → String
  | malformed => "InvalidToken"
  | signature => "InvalidSignature"
  | ecKey => "InvalidEcdsaKey"
  | edKey => "InvalidEddsaKey"
  | rsaKey => "InvalidRsaKey"
  | rsaSigning => "RsaFailedSigning"
  | signing => "Signing"
  | algorithmName => "InvalidAlgorithmName"
  | keyFormat => "InvalidKeyFormat"
  | missingClaim => "MissingRequiredClaim"
  | claimForm => "InvalidClaimFormat"
  | expired => "ExpiredSignature"
  | premature => "ImmatureSignature"
  | issuer => "InvalidIssuer"
  | audience => "InvalidAudience"
  | subject => "InvalidSubject"
  | algorithm => "InvalidAlgorithm"
  | noAlgorithm => "MissingAlgorithm"
  | base64 => "Base64"
  | json => "Json"
  | utf8 => "Utf8"
  | provider => "Provider"

/-- All faults. -/
def all : List Fault :=
  [malformed, signature, ecKey, edKey, rsaKey, rsaSigning, signing, algorithmName, keyFormat,
    missingClaim, claimForm, expired, premature, issuer, audience, subject, algorithm, noAlgorithm,
    base64, json, utf8, provider]

/-- The fault of a name. -/
def ofName? (name : String) : Option Fault := all.find? (·.name = name)

end Fault

end BearerAuth.Token
