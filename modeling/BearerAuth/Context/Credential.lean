import BearerAuth.Context.Basic
import BearerAuth.Text.Split

/-!
# Credentials in headers

A credential is carried as a scheme and a token with a space between them.  The scheme ends at the
first space, so a token may hold spaces; the case of the scheme's ASCII letters does not count.
-/

namespace BearerAuth

/-- The name of the header that carries credentials. -/
def authorizationHeader : String := "authorization"

/-- The scheme of all credentials that this library issues. -/
def bearerScheme : String := "Bearer"

/-- The token of a header's text, if the scheme is the one expected and the token is not empty. -/
def parseAuthorization (value scheme : String) : Except AuthError String :=
  match Text.splitOnce? ' ' value.toList with
  | none => .error .missingBearerToken
  | some (before, token) =>
    if before.map Char.toLower = scheme.toList.map Char.toLower ∧ token ≠ [] then
      .ok (String.ofList token)
    else .error .missingBearerToken

namespace Context

/-- The headers that come in by a convention. -/
def inbound? (c : Context) : Carrier → Option Headers
  | .grpc => some c.incoming
  | .transport => c.server.map Transport.request

/-- The text of the first credential that comes in. -/
def credential? (c : Context) (carrier : Carrier) : Option String :=
  ((c.inbound? carrier).bind (·.get? authorizationHeader)).bind HeaderValue.read?

/-- The token that comes in. -/
def token (c : Context) (scheme : String) (carrier : Carrier) : Except AuthError String :=
  match c.credential? carrier with
  | none => .error .missingBearerToken
  | some value => parseAuthorization value scheme

/-- The context with a credential that goes out in place of any other.  Without a transport to go by
it is left out. -/
def withCredential (c : Context) (carrier : Carrier) (v : HeaderValue) : Context :=
  match carrier with
  | .grpc => { c with outgoing := c.outgoing.set authorizationHeader v }
  | .transport =>
    { c with client := c.client.map fun t ↦
        { t with request := t.request.set authorizationHeader v } }

/-- The context with a token that goes out under a scheme; fails if the two cannot be sent. -/
def withToken (c : Context) (scheme token : String) (carrier : Carrier) :
    Except AuthError Context :=
  match HeaderValue.of? (scheme ++ " " ++ token) with
  | some v => .ok (c.withCredential carrier v)
  | none => .error .invalidToken

/-- Makes a token go out under a scheme, in the context at hand; fails if the two cannot be sent. -/
def inject (scheme token : String) (carrier : Carrier) : EStateM AuthError Context Unit :=
  match HeaderValue.of? (scheme ++ " " ++ token) with
  | some v => modify (·.withCredential carrier v)
  | none => throw .invalidToken

end Context

end BearerAuth
