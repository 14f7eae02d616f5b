import BearerAuth.Base64
import BearerAuth.Claims.Basic
import BearerAuth.Text.Utf8
import BearerAuth.Token.Algorithm

/-!
# Identity tokens

What a relying party reads from an identity token once it is verified.  Such a token may be bound to
an access token by a hash: the first half of the digest of the access token, in base 64.
-/

namespace BearerAuth.Oidc

open Token (Algorithm)

/-- The algorithms that a relying party accepts. -/
def supportedAlgorithms : List Algorithm :=
  [.rs256, .rs384, .rs512, .es256, .es384, .ps256, .ps384, .ps512]

/-- The hash of an access token under the digest of an algorithm; only signatures with a public key
have one. -/
def accessTokenHash (a : Algorithm) (accessToken : String) : Except AuthError String :=
  match a.hash? with
  | some v =>
    if a.family = .hmac then .error .unsupportedSigningMethod
    else
      let digest := Sha2.digest v (Text.toBytes accessToken)
      .ok (String.ofList (Base64.encode .url (digest.take (digest.length / 2))))
  | none => .error .unsupportedSigningMethod

/-- The content of a verified identity token. -/
structure IdToken where
  /-- Who issued it. -/
  issuer : String
  /-- Whom it is for. -/
  audience : List String
  /-- Whom it speaks of. -/
  subject : String
  /-- When it ceases to hold. -/
  expiry : Option Instant
  /-- When it was issued. -/
  issuedAt : Option Instant
  /-- What the relying party sent along with its request. -/
  nonce : Option String
  /-- The hash of the access token. -/
  accessTokenHash : Option String
  /-- The algorithm of the signature. -/
  algorithm : Algorithm
  /-- All claims. -/
  claims : Claims
  deriving DecidableEq

namespace IdToken

/-- The identity token with some claims. -/
def ofClaims (c : Claims) (algorithm : Algorithm) : Except AuthError IdToken := do
  return {
    issuer := c.issuer.getD ""
    audience := c.audience
    subject := c.subject.getD ""
    expiry := c.expirationTime
    issuedAt := c.issuedAt
    nonce := ← c.getText "nonce"
    accessTokenHash := ← c.getText "at_hash"
    algorithm
    claims := c }

/-- Checks that an access token is the one that the identity token is bound to. -/
def verifyAccessToken (t : IdToken) (accessToken : String) : Except AuthError Unit :=
  match t.accessTokenHash with
  | none | some "" => .error .noAccessTokenHash
  | some expected =>
    match Oidc.accessTokenHash t.algorithm accessToken with
    | .error e => .error e
    | .ok hash => if hash = expected then .ok () else .error .wrongAccessTokenHash

end IdToken

end BearerAuth.Oidc
