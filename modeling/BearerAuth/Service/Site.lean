import BearerAuth.Service.Guard

/-!
# The site

The site has one page, which tells callers who they are.  All of it is behind a guard, so that even
what is not there is not found by callers who are not known; and all of it is open to scripts of
other sites, whose preliminary questions are answered before anyone asks who they are.
-/

namespace BearerAuth.Service

/-- The path of the page. -/
def whoAmIPath : String := "/whoami"

/-- The methods of the page. -/
def whoAmIMethods : List String := ["GET", "HEAD"]

/-- The path of a request target, without what follows a question mark or a number sign. -/
def targetPath (target : String) : String :=
  String.ofList (target.toList.takeWhile fun c ↦ c ≠ '?' && c ≠ '#')

/-- Whether a request is for the page, but by a method that it does not have. -/
def isMisdirected (r : Request) : Bool := r.path = whoAmIPath && r.method ∉ whoAmIMethods

/-- The page, and what is answered elsewhere. -/
def pages : Handler := fun r ↦
  if r.path ≠ whoAmIPath then { status := 404 }
  else if r.method ∉ whoAmIMethods then { status := 405 }
  else whoAmI r

/-- The headers that open a reply to scripts of all other sites. -/
def openHeaders : List (String × String) :=
  [("vary", "origin, access-control-request-method, access-control-request-headers"),
    ("access-control-allow-origin", "*")]

/-- The reply to a preliminary question: everything is allowed. -/
def preliminary : Reply where
  status := 200
  headers := openHeaders ++
    [("access-control-allow-methods", "*"), ("access-control-allow-headers", "*")]

/-- A handler whose replies are open to scripts of other sites. -/
def crossOrigin (next : Handler) : Handler := fun r ↦
  if r.method = "OPTIONS" then preliminary
  else
    let reply := next r
    { reply with headers :=
        reply.headers ++ openHeaders ++ [("access-control-expose-headers", "*")] }

/-- A handler whose replies tell the methods of the page to those who use another, tell the length
of the body, and leave out the body where only the headers are asked for. -/
def complete (next : Handler) : Handler := fun r ↦
  let reply := next r
  let reply := if isMisdirected r then reply.withHeader "allow" (",".intercalate whoAmIMethods)
    else reply
  let reply := reply.measured
  if r.method = "HEAD" then { reply with body := "" } else reply

/-- The site behind an authenticator. -/
def site (a : Authenticator) (now : Instant) : Handler :=
  complete (crossOrigin (a.guard now pages))

end BearerAuth.Service
