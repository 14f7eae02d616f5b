import BearerAuth.Claims.Payload
import BearerAuth.Token.Compact
import BearerAuth.Token.Header
import BearerAuth.Token.Payload
import BearerAuth.Token.Signature
import BearerAuth.Token.Window

/-!
# Signed tokens

A `JwtAuthenticator` issues tokens under one algorithm and accepts tokens under that algorithm only.
What a token declares is compared first; only then is a key looked for, by the token's header; and
nothing in the payload counts before the signature has been verified under that key.
-/

namespace BearerAuth

open Token (Algorithm Compact Fault Header Payload.ofSegment Payload.toSegment Signature.sign
  Signature.verifier Signature.Verifier)

/-- Finds a key by a token's header. -/
abbrev KeyResolver : Type := Header → Option KeyPair

/-- What a signed-token authenticator is made from. -/
structure JwtOptions where
  /-- The algorithm of all tokens. -/
  algorithm : Algorithm := .hs256
  /-- How keys are found, if they are. -/
  resolver : Option KeyResolver := none
  /-- The identifier of the key, for issued tokens. -/
  keyId : Option String := none
  /-- How far clocks may differ, in nanoseconds. -/
  leeway : Nat := 0

/-- Issues and accepts signed tokens. -/
structure JwtAuthenticator where
  /-- The algorithm of all tokens. -/
  algorithm : Algorithm
  /-- How keys are found, if they are. -/
  resolver : Option KeyResolver
  /-- The identifier of the key, for issued tokens. -/
  keyId : Option String
  /-- How far clocks may differ. -/
  window : Window

namespace Token

/-- The segments and the header of a token. -/
def readHeader (token : String) : Except AuthError (Compact × Header) :=
  match Compact.ofText? token with
  | none => .error .invalidToken
  | some segments =>
    match Header.ofSegment? segments.header with
    | none => .error .invalidToken
    | some header => .ok (segments, header)

/-- The payload of a token whose signature verifies under an algorithm and a key. -/
def verifiedPayload (segments : Compact) (algorithm : Algorithm) (key : VerifyingKey) :
    Except AuthError (Dict Json) := do
  let verifier ← (Signature.verifier algorithm key).mapError Fault.toAuthError
  match Base64.decode? .url segments.signature with
  | none => .error Fault.base64.toAuthError
  | some signature =>
    if verifier.accepts segments.messageBytes signature then
      (Payload.ofSegment segments.payload).mapError Fault.toAuthError
    else .error Fault.signature.toAuthError

end Token

namespace JwtAuthenticator

/-- The authenticator of some options. -/
def ofOptions (o : JwtOptions) : Except AuthError JwtAuthenticator := do
  return ⟨o.algorithm, o.resolver, o.keyId, ← Window.ofLeeway o.leeway⟩

/-- The key that goes with a header. -/
def resolve (a : JwtAuthenticator) (header : Header) : Except AuthError KeyPair :=
  match a.resolver with
  | none => .error .missingKeyResolver
  | some resolver =>
    match resolver header with
    | none => .error .keyNotFound
    | some key => .ok key

/-- The claims of a token. -/
def authenticateToken (a : JwtAuthenticator) (now : Instant) (token : String) :
    Except AuthError Claims := do
  let (segments, header) ← Token.readHeader token
  if header.algorithm ≠ a.algorithm then .error .unsupportedSigningMethod else
    let key ← a.resolve header
    let payload ← Token.verifiedPayload segments header.algorithm key.verifying
    let claims ← Claims.ofPayload payload
    a.window.check now claims

/-- A token with some claims.  The random number salts signatures that are probabilistic. -/
def createIdentity (a : JwtAuthenticator) (random : Nat) (c : Claims) :
    Except AuthError String := do
  let header := Header.new a.algorithm a.keyId
  let key ← a.resolve header
  match key.signing with
  | none => .error .signTokenFailed
  | some key =>
    let token : Compact := ⟨header.toSegment, Payload.toSegment c.toPayload, []⟩
    match Signature.sign a.algorithm key random token.messageBytes with
    | .ok signature => .ok { token with signature := Base64.encode .url signature }.toText
    | .error _ => .error .signTokenFailed

end JwtAuthenticator

end BearerAuth
