import BearerAuth.Context.Credential
import BearerAuth.Jwt
import BearerAuth.Oidc.Authenticator
import BearerAuth.PreSharedKey

/-!
# Authenticators

An authenticator is one of the backends.  Each accepts tokens and, unless it only relies on someone
else's, issues them; how tokens travel in a context is the same for all backends but the one that
asks for none.
-/

namespace BearerAuth

/-- A backend. -/
inductive Authenticator where
  /-- Accepts everything and issues nothing, for tests and local development. -/
  | noop
  /-- Signed tokens. -/
  | jwt (a : JwtAuthenticator)
  /-- Pre-shared keys. -/
  | preSharedKeys (keys : PreSharedKeys)
  /-- The tokens of an identity provider. -/
  | oidc (a : OidcAuthenticator)

namespace Authenticator

/-- The claims of a token. -/
def authenticateToken (a : Authenticator) (now : Instant) (token : String) :
    Except AuthError Claims :=
  match a with
  | noop => .ok .empty
  | jwt a => a.authenticateToken now token
  | preSharedKeys keys => keys.authenticateToken token
  | oidc a => a.authenticateToken now token

/-- A token with some claims.  A relying party has no key to sign with. -/
def createIdentity (a : Authenticator) (random : Nat) (c : Claims) : Except AuthError String :=
  match a with
  | noop => .ok ""
  | jwt a => a.createIdentity random c
  | preSharedKeys keys => keys.createIdentity random
  | oidc _ => .error .missingKeyResolver

/-- The claims of the token that comes in. -/
def authenticate (a : Authenticator) (now : Instant) (ctx : Context) (carrier : Carrier) :
    Except AuthError Claims :=
  match a with
  | noop => .ok .empty
  | a => do a.authenticateToken now (← ctx.token bearerScheme carrier)

/-- The context with a new token that goes out. -/
def createIdentityWithContext (a : Authenticator) (random : Nat) (ctx : Context)
    (carrier : Carrier) (c : Claims) : Except AuthError Context :=
  match a with
  | noop => .ok ctx
  | a => do ctx.withToken bearerScheme (← a.createIdentity random c) carrier

/-- The context with the claims of its caller, who is known by the request of the transport. -/
def identifyCaller (a : Authenticator) (now : Instant) (ctx : Context) :
    Except AuthError Context := do
  return { ctx with claims := some (← a.authenticate now ctx .transport) }

end Authenticator

end BearerAuth
