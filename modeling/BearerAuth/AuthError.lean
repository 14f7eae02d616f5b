/-!
# Why a caller is not authenticated

Each cause has a number and a name that stay the same for callers who act on them, and a message
for readers.
-/

namespace BearerAuth

/-- The causes of a failed authentication, of a failed issue of a credential, and of a refused
authenticator. -/
inductive AuthError where
  /-- There is no value of the form `<scheme> <token>`. -/
  | missingBearerToken
  /-- The token is malformed. -/
  | invalidToken
  /-- A signature does not verify, or signing failed. -/
  | signTokenFailed
  /-- The token is expired or not yet valid. -/
  | tokenExpired
  /-- The token declares another algorithm than the one expected. -/
  | unsupportedSigningMethod
  /-- The claims are absent or have a wrong shape. -/
  | invalidClaims
  /-- The subject is not a text. -/
  | invalidSubject
  /-- The issuer is not a text, or not the one expected. -/
  | invalidIssuer
  /-- The audience is neither a text nor a list of texts, or lacks the one expected. -/
  | invalidAudience
  /-- The expiration time is not a date. -/
  | invalidExpiration
  /-- The time before which the token does not hold is not a date. -/
  | invalidNotBefore
  /-- The time of issue is not a date. -/
  | invalidIssuedAt
  /-- A claim has another shape than the one asked for. -/
  | invalidType
  /-- There is no way to find keys. -/
  | missingKeyResolver
  /-- No key was found. -/
  | keyNotFound
  /-- Authentication did not take place. -/
  | unauthenticated
  /-- An ID token carries no hash of the access token. -/
  | noAccessTokenHash
  /-- The hash in an ID token is not the hash of the access token. -/
  | wrongAccessTokenHash
  /-- The options of an authenticator cannot be honoured. -/
  | invalidConfiguration (detail : String)
  /-- The identity provider could not be reached or did not make sense. -/
  | discovery (detail : String)
  deriving DecidableEq, Repr

namespace AuthError

/-- The number of a cause. -/
def code : AuthError → Nat
  | invalidSubject => 1001
  | invalidAudience => 1002
  | invalidIssuer => 1003
  | invalidClaims => 1004
  | invalidToken => 1005
  | invalidExpiration => 1006
  | invalidNotBefore => 1007
  | invalidIssuedAt => 1008
  | invalidType => 1009
  | missingBearerToken => 1010
  | tokenExpired => 1011
  | unsupportedSigningMethod => 1012
  | invalidConfiguration _ => 1013
  | missingKeyResolver => 1014
  | signTokenFailed => 1015
  | keyNotFound => 1016
  | discovery _ => 1017
  | noAccessTokenHash => 1050
  | wrongAccessTokenHash => 1051
  | unauthenticated => 1500

/-- The name of a cause. -/
def reason : AuthError → String
  | missingBearerToken => "MISSING_BEARER_TOKEN"
  | invalidToken => "INVALID_TOKEN"
  | signTokenFailed => "SIGN_TOKEN_FAILED"
  | tokenExpired => "TOKEN_EXPIRED"
  | unsupportedSigningMethod => "UNSUPPORTED_SIGNING_METHOD"
  | invalidClaims => "INVALID_CLAIMS"
  | invalidSubject => "INVALID_SUBJECT"
  | invalidIssuer => "INVALID_ISSUER"
  | invalidAudience => "INVALID_AUDIENCE"
  | invalidExpiration => "INVALID_EXPIRATION"
  | invalidNotBefore => "INVALID_NOT_BEFORE"
  | invalidIssuedAt => "INVALID_ISSUED_AT"
  | invalidType => "INVALID_TYPE"
  | missingKeyResolver => "MISSING_KEY_FUNC"
  | keyNotFound => "GET_KEY_FAILED"
  | unauthenticated => "UNAUTHENTICATED"
  | noAccessTokenHash => "NO_AT_HASH"
  | wrongAccessTokenHash => "INVALID_AT_HASH"
  | invalidConfiguration _ => "INVALID_CONFIGURATION"
  | discovery _ => "DISCOVERY_FAILED"

/-- The message for readers. -/
def message : AuthError → String
  | missingBearerToken => "missing bearer token"
  | invalidToken => "invalid bearer token"
  | signTokenFailed => "sign token failed"
  | tokenExpired => "token expired"
  | unsupportedSigningMethod => "unsupported signing method"
  | invalidClaims => "invalid claims"
  | invalidSubject => "invalid subject"
  | invalidIssuer => "invalid issuer"
  | invalidAudience => "invalid audience"
  | invalidExpiration => "invalid expiration time"
  | invalidNotBefore => "invalid not before time"
  | invalidIssuedAt => "invalid issued at time"
  | invalidType => "claim has an unexpected type"
  | missingKeyResolver => "missing key func"
  | keyNotFound => "get key failed"
  | unauthenticated => "unauthenticated"
  | noAccessTokenHash => "id token did not have an access token hash"
  | wrongAccessTokenHash => "access token hash does not match value in ID token"
  | invalidConfiguration detail => "invalid auth configuration: " ++ detail
  | discovery detail => "OIDC discovery failed: " ++ detail

end AuthError

end BearerAuth
