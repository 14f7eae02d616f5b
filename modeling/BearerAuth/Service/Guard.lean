import BearerAuth.Authenticator
import BearerAuth.Service.Exchange

/-!
# Guards at both ends

On the way in, a guard stands before a handler: only requests with a good credential reach it, with
the claims of the caller.  On the way out, a client puts a new credential into each request; where
none can be issued the request goes out as it is.
-/

namespace BearerAuth

open Service (Handler Reply Request)

/-- The handler behind a guard, which answers in its place if the caller is not let in. -/
def Authenticator.guard (a : Authenticator) (now : Instant) (next : Handler) : Handler := fun r ↦
  match a.identifyCaller now { server := some r.transport } with
  | .ok ctx => next { r with claims := ctx.claims }
  | .error e => .refusal e

/-- What authorizes requests that go out. -/
structure Client where
  /-- Where credentials come from. -/
  authenticator : Authenticator
  /-- What all credentials claim. -/
  claims : Claims

namespace Client

/-- The context with a new credential in the request that goes out. -/
def authorize (c : Client) (random : Nat) (ctx : Context) : Context :=
  match c.authenticator.createIdentityWithContext random ctx .transport c.claims with
  | .ok ctx => ctx
  | .error _ => ctx

/-- The request with a new credential.  Its headers are taken out and travel with the transport, so
a context that came back without one would leave the request without headers. -/
def authorizeRequest (c : Client) (random : Nat) (r : Request) : Request :=
  match (c.authorize random { client := some r.transport }).client with
  | some t => { r with headers := t.request }
  | none => { r with headers := .empty }

end Client

end BearerAuth
