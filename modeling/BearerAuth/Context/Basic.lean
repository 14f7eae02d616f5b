import BearerAuth.Claims.Basic
import BearerAuth.Context.Headers

/-!
# Request contexts

A request context is what travels down a chain of calls: what came in, what goes out, and the claims
of the caller once they are known.  There are two conventions for where headers are carried: in one
bag for each direction, or in the request header of a transport.
-/

namespace BearerAuth

/-- Where headers are carried. -/
inductive Carrier where
  /-- In one bag for each direction. -/
  | grpc
  /-- In the request header of a transport. -/
  | transport
  deriving DecidableEq, Repr

namespace Carrier

instance : Inhabited Carrier := ⟨.grpc⟩

/-- The name of a convention. -/
def name : Carrier → String
  | grpc => "grpc"
  | transport => "transport"

/-- The convention of a name as written in a serialised value. -/
def ofName? (s : String) : Option Carrier := [grpc, transport].find? (·.name = s)

/-- The convention that a loosely written name means: in any case, also under the name of the
protocol; an unknown name means the one bag. -/
def ofText (s : String) : Carrier :=
  if lowerCase s = "transport" ∨ lowerCase s = "http" then .transport else .grpc

end Carrier

/-- A transport, such as an exchange of a request and a reply. -/
structure Transport where
  /-- What kind of transport it is. -/
  kind : String := ""
  /-- Whom it connects to. -/
  endpoint : String := ""
  /-- What it asks for. -/
  operation : String := ""
  /-- The headers of the request. -/
  request : Headers := .empty
  /-- The headers of the reply. -/
  reply : Headers := .empty
  deriving DecidableEq

/-- The state of one request. -/
structure Context where
  /-- Headers that came in. -/
  incoming : Headers := .empty
  /-- Headers that go out. -/
  outgoing : Headers := .empty
  /-- The transport that the request came by. -/
  server : Option Transport := none
  /-- The transport that further requests go by. -/
  client : Option Transport := none
  /-- The claims of the caller. -/
  claims : Option Claims := none
  deriving DecidableEq

namespace Context

/-- What is left of a context on the other side: what went out comes in. -/
def forward (c : Context) : Context where
  incoming := c.outgoing
  server := c.client.map fun t ↦ { t with reply := .empty }

end Context

end BearerAuth
