import BearerAuth.Jwt
import BearerAuth.Oidc.IdToken
import BearerAuth.Oidc.KeySet
import BearerAuth.Oidc.Provider

/-!
# Relying parties

A relying party accepts the tokens of one provider for one audience.  It verifies a token as any
signed token is verified, with a key of the provider, and looks at issuer and audience only then.
-/

namespace BearerAuth

open Oidc (IdToken Provider RemoteKeySet)
open Token (Algorithm)

/-- What a relying party is made from. -/
structure OidcOptions where
  /-- The address of the provider and the issuer of its tokens. -/
  issuerUrl : String
  /-- For whom tokens have to be. -/
  audience : String
  /-- The algorithm of all tokens. -/
  algorithm : Algorithm := .rs256
  /-- The time between two attempts to refresh the keys, in nanoseconds. -/
  refreshInterval : Nat := RemoteKeySet.defaultInterval
  /-- How far clocks may differ, in nanoseconds. -/
  leeway : Nat := 0
  deriving DecidableEq, Repr

/-- A relying party. -/
structure OidcAuthenticator where
  /-- What it is made from. -/
  options : OidcOptions
  /-- What the provider says of itself. -/
  provider : Provider
  /-- The keys of the provider. -/
  keys : Option String → Option VerifyingKey
  /-- When claims hold. -/
  window : Window

namespace OidcOptions

/-- Checks the options that can be checked without asking the provider. -/
def validate (names : Network.Names) (o : OidcOptions) : Except AuthError Unit :=
  match Network.Url.ofText names o.issuerUrl with
  | .error fault => .error (.invalidConfiguration
      ("invalid OIDC issuer URL `" ++ o.issuerUrl ++ "`: " ++ fault.message))
  | .ok _ =>
    if o.refreshInterval = 0 ∨ RemoteKeySet.maxInterval < o.refreshInterval then
      .error (.invalidConfiguration ("JWKS refresh interval must be between 1ns and " ++
        (RemoteKeySet.maxInterval / 1000000000).repr ++ "s"))
    else if o.algorithm ∉ Oidc.supportedAlgorithms then
      .error (.invalidConfiguration ("unsupported OIDC signing method " ++ o.algorithm.name))
    else .ok ()

end OidcOptions

namespace OidcAuthenticator

/-- The relying party of some options, a provider and its keys. -/
def ofParts (names : Network.Names) (o : OidcOptions) (provider : Provider)
    (keys : Option String → Option VerifyingKey) : Except AuthError OidcAuthenticator := do
  o.validate names
  return ⟨o, provider, keys, ← Window.ofLeeway o.leeway⟩

/-- The keys at the address that a provider names. -/
def fetchKeys (names : Network.Names) (pages : Network.Pages) (provider : Provider) :
    Except AuthError RemoteKeySet :=
  (RemoteKeySet.fetch names pages provider.jwksUri).mapError fun fault ↦
    .discovery ("error fetching keys from " ++ provider.jwksUri ++ ": " ++ fault.message)

/-- The relying party of some options: asks the provider for its document and its keys. -/
def connect (names : Network.Names) (pages : Network.Pages) (o : OidcOptions) :
    Except AuthError OidcAuthenticator := do
  o.validate names
  let provider ← Oidc.discover names pages o.issuerUrl
  let keySet ← fetchKeys names pages provider
  ofParts names o provider (keySet.startRefresh o.refreshInterval).key?

/-- The verifying key that goes with a header. -/
def findKey (a : OidcAuthenticator) (header : Token.Header) : Except AuthError VerifyingKey :=
  match a.keys header.keyId with
  | some key => .ok key
  | none => .error .keyNotFound

/-- The claims, if they are the provider's and for the right audience. -/
def checkParties (a : OidcAuthenticator) (c : Claims) : Except AuthError Claims :=
  if c.issuer ≠ some a.options.issuerUrl then .error .invalidIssuer
  else if a.options.audience ∉ c.audience then .error .invalidAudience
  else .ok c

/-- The header and the claims of a token. -/
def verify (a : OidcAuthenticator) (now : Instant) (token : String) :
    Except AuthError (Token.Header × Claims) := do
  let (segments, header) ← Token.readHeader token
  if header.algorithm ≠ a.options.algorithm then .error .unsupportedSigningMethod else
    let key ← a.findKey header
    let payload ← Token.verifiedPayload segments header.algorithm key
    let claims ← Claims.ofPayload payload
    let claims ← a.window.check now claims
    return (header, ← a.checkParties claims)

/-- The claims of a token. -/
def authenticateToken (a : OidcAuthenticator) (now : Instant) (token : String) :
    Except AuthError Claims := do
  let (_, claims) ← a.verify now token
  return claims

/-- The content of an identity token. -/
def verifyIdToken (a : OidcAuthenticator) (now : Instant) (token : String) :
    Except AuthError IdToken := do
  let (header, claims) ← a.verify now token
  IdToken.ofClaims claims header.algorithm

end OidcAuthenticator

end BearerAuth
