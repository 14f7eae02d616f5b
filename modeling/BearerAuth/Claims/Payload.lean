import BearerAuth.Claims.Basic
import BearerAuth.Json.Reader

/-!
# Payloads

A payload is the JSON object that carries claims.  Claims are read from it member by member in the
order of the names, so that the first ill-shaped registered member decides the error; members of
other names that stand for no claim are left out.  In the other direction the scopes are joined into
one text.
-/

namespace BearerAuth.Claims

/-- Puts one member of a payload in. -/
def addMember (name : String) (v : Json) : EStateM AuthError Claims Unit :=
  match ClaimValue.ofJson? v with
  | some value => set name value
  | none =>
    match RegisteredClaim.ofName? name with
    | some claim => throw claim.shapeError
    | none => pure ()

/-- Puts some members of a payload in, one after the other. -/
def addMembers : List (String × Json) → EStateM AuthError Claims Unit
  | [] => pure ()
  | (name, v) :: rest => do
    addMember name v
    addMembers rest

/-- The claims of a payload. -/
def ofPayload (payload : Dict Json) : Except AuthError Claims :=
  empty.attempt (addMembers payload.entries)

/-- The payload of claims. -/
def toPayload (c : Claims) : Dict Json :=
  let values := c.values.map ClaimValue.toJson
  if c.scopes.isEmpty then values
  else values.insert RegisteredClaim.scope.name (.string c.scopes.toText)

/-- Why a text is not the text of a payload. -/
inductive TextFault where
  /-- The text is no JSON object. -/
  | json
  /-- A claim is at fault. -/
  | claim (e : AuthError)
  deriving DecidableEq, Repr

/-- The claims of a payload's text.  The claims are checked before the rest of the text is. -/
def ofText (text : String) : Except TextFault Claims :=
  match Json.readFront .text text.toList with
  | none => .error .json
  | some (source, rest) =>
    match source.toDict? with
    | none => .error .json
    | some payload =>
      match ofPayload payload with
      | .error e => .error (.claim e)
      | .ok c => if (Json.skipSpace rest).isEmpty then .ok c else .error .json

end BearerAuth.Claims
