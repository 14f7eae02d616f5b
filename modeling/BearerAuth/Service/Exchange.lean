import BearerAuth.Claims.Payload
import BearerAuth.Context.Basic
import BearerAuth.Json.Printer
import BearerAuth.Text.Utf8

/-!
# Requests and replies

What a service answers to a request.  A handler is a function from requests to replies; what guards
it or adds to its replies is a function on handlers.
-/

namespace BearerAuth.Service

/-- A request on its way to a handler. -/
structure Request where
  /-- What is asked for. -/
  method : String := "GET"
  /-- Where it is asked for. -/
  path : String := "/"
  /-- The headers. -/
  headers : Headers := .empty
  /-- The claims of the caller, once they are known. -/
  claims : Option Claims := none
  deriving DecidableEq

/-- The answer to a request. -/
structure Reply where
  /-- The status code. -/
  status : Nat
  /-- The headers, names in lower case. -/
  headers : List (String × String) := []
  /-- The body. -/
  body : String := ""
  deriving DecidableEq, Repr

/-- What answers requests. -/
abbrev Handler : Type := Request → Reply

/-- The transport that a request makes up. -/
def Request.transport (r : Request) : Transport where
  kind := "http"
  operation := r.path
  request := r.headers

namespace Reply

/-- A reply with a JSON value as its body. -/
def json (status : Nat) (v : Json) : Reply :=
  ⟨status, [("content-type", "application/json")], v.toText⟩

/-- The reply to a caller who is not let in: says why. -/
def refusal (e : AuthError) : Reply :=
  json 401 (.object [("code", .ofInt e.code), ("message", .string e.message),
    ("reason", .string e.reason)])

/-- The reply with one more header. -/
def withHeader (r : Reply) (name value : String) : Reply :=
  { r with headers := r.headers ++ [(name, value)] }

/-- The reply with the length of its body. -/
def measured (r : Reply) : Reply :=
  r.withHeader "content-length" (Text.toBytes r.body).length.repr

end Reply

/-- The claims that the caller is known by. -/
def whoAmI : Handler := fun r ↦
  match r.claims with
  | some c => .json 200 (.ofDict c.toPayload)
  | none => .refusal .unauthenticated

end BearerAuth.Service
