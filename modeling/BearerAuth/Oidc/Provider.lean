import BearerAuth.AuthError
import BearerAuth.Json.Reader
import BearerAuth.Json.Shape
import BearerAuth.Network.Http

/-!
# Identity providers

An identity provider describes itself in a document at an address derived from its own.
-/

namespace BearerAuth.Oidc

open Json (Source)

/-- What a provider says of itself. -/
structure Provider where
  /-- The name that it issues tokens under. -/
  issuer : String := ""
  /-- Where users are sent to log in. -/
  authorizationEndpoint : String := ""
  /-- Where tokens are fetched. -/
  tokenEndpoint : String := ""
  /-- Where more is learnt about a user. -/
  userInfoEndpoint : String := ""
  /-- Where its keys are. -/
  jwksUri : String := ""
  /-- Where tokens are revoked. -/
  revocationEndpoint : String := ""
  /-- The algorithms that it signs with. -/
  algorithms : List String := []
  deriving DecidableEq, Repr

namespace Provider

/-- The members of a provider's document in their order; the last is a list. -/
def memberNames : List String :=
  ["issuer", "authorization_endpoint", "token_endpoint", "userinfo_endpoint", "jwks_uri",
    "revocation_endpoint", "id_token_signing_alg_values_supported"]

/-- The text of a member that may be absent, which then is empty. -/
def textOr? (member : Option Source) : Option String :=
  match member with
  | none => some ""
  | some s => s.text?

/-- The texts of a member that may be absent, which then is empty. -/
def textsOr? (member : Option Source) : Option (List String) :=
  match member with
  | none => some []
  | some s => s.texts?

/-- The provider of its members; each may be absent. -/
def ofMembers? (member : String → Option (Option Source)) : Option Provider := do
  return {
    issuer := ← textOr? (← member "issuer")
    authorizationEndpoint := ← textOr? (← member "authorization_endpoint")
    tokenEndpoint := ← textOr? (← member "token_endpoint")
    userInfoEndpoint := ← textOr? (← member "userinfo_endpoint")
    jwksUri := ← textOr? (← member "jwks_uri")
    revocationEndpoint := ← textOr? (← member "revocation_endpoint")
    algorithms := ← textsOr? (← member "id_token_signing_alg_values_supported") }

/-- The provider of a document: an object, of which other members do not count, or the list of the
members in their order, of which the last may be missing. -/
def ofSource? : Source → Option Provider
  | .object members => do
    let members ← Source.named? members
    ofMembers? fun name ↦ Source.unique? members name
  | .array items =>
    if memberNames.length < items.length then none
    else ofMembers? fun name ↦ some ((memberNames.zip items).lookup name)
  | _ => none

/-- The document of a provider, with the members in their order. -/
def toJson (p : Provider) : Json :=
  .object [("issuer", .string p.issuer),
    ("authorization_endpoint", .string p.authorizationEndpoint),
    ("token_endpoint", .string p.tokenEndpoint),
    ("userinfo_endpoint", .string p.userInfoEndpoint),
    ("jwks_uri", .string p.jwksUri),
    ("revocation_endpoint", .string p.revocationEndpoint),
    ("id_token_signing_alg_values_supported", .ofStrings p.algorithms)]

end Provider

/-- The address of a provider's document. -/
def discoveryUri (issuerUrl : String) : String :=
  String.ofList (issuerUrl.toList.reverse.dropWhile (· = '/')).reverse ++
    "/.well-known/openid-configuration"

/-- What a provider says of itself in the document at its address.  The document must name the
issuer and the place of the keys. -/
def discover (names : Network.Names) (pages : Network.Pages) (issuerUrl : String) :
    Except AuthError Provider :=
  match Network.get? names pages (discoveryUri issuerUrl) with
  | none => .error (.discovery "error getting OIDC: the request was not sent")
  | some response =>
    if response.status ≠ 200 then
      .error (.discovery ("unexpected status code getting OIDC: " ++ response.status.repr))
    else match response.body with
      | none => .error (.discovery "error reading response body: the body is incomplete")
      | some bytes =>
        match (Source.ofBytes? bytes).bind Provider.ofSource? with
        | none => .error (.discovery "failed parsing document: not a provider document")
        | some provider =>
          if provider.issuer = "" then .error (.discovery "missing issuer value")
          else if provider.jwksUri = "" then .error (.discovery "missing jwks_uri value")
          else .ok provider

end BearerAuth.Oidc
