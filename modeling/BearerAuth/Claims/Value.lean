import BearerAuth.AuthError
import BearerAuth.Instant
import BearerAuth.Json.Basic

/-!
# Values of claims

A claim is a text, a list of texts or a number.  A JSON value of another shape stands for no claim,
and a number that is not finite has no JSON number to stand for it.
-/

namespace BearerAuth

/-- The value of a claim. -/
inductive ClaimValue where
  /-- A text. -/
  | text (s : String)
  /-- A list of texts. -/
  | texts (l : List String)
  /-- A number. -/
  | number (x : Binary64)
  deriving DecidableEq

namespace ClaimValue

/-- The claim that a JSON value stands for. -/
def ofJson? : Json → Option ClaimValue
  | .string s => some (.text s)
  | .number n => some (.number n.toBinary64)
  | .array items => ((Json.array items).strings?).map .texts
  | _ => none

/-- Whole numbers below this size are written without a fraction. -/
def wholeBound : Nat := 2 ^ 53

/-- The JSON value of a number. -/
def numberToJson (x : Binary64) : Json :=
  match x.toInt? with
  | some n => if n.natAbs < wholeBound then .ofInt n else .number (.float x)
  | none => if x.isFinite then .number (.float x) else .null

/-- The JSON value of a claim. -/
def toJson : ClaimValue → Json
  | .text s => .string s
  | .texts l => .ofStrings l
  | .number x => numberToJson x

/-- The instant that a claim stands for. -/
def instant? : ClaimValue → Option Instant
  | .number x => Instant.ofNumericDate? x
  | _ => none

end ClaimValue

/-- The claims with a meaning of their own. -/
inductive RegisteredClaim where
  /-- Who the token speaks of. -/
  | subject
  /-- Who issued it. -/
  | issuer
  /-- Whom it is for. -/
  | audience
  /-- When it ceases to hold. -/
  | expirationTime
  /-- When it begins to hold. -/
  | notBefore
  /-- When it was issued. -/
  | issuedAt
  /-- Its own identifier. -/
  | tokenId
  /-- What it allows. -/
  | scope
  deriving DecidableEq, Repr

namespace RegisteredClaim

/-- The name of a claim in a payload. -/
def name : RegisteredClaim → String
  | subject => "sub"
  | issuer => "iss"
  | audience => "aud"
  | expirationTime => "exp"
  | notBefore => "nbf"
  | issuedAt => "iat"
  | tokenId => "jti"
  | scope => "scope"

/-- The registered claims. -/
def all : List RegisteredClaim :=
  [subject, issuer, audience, expirationTime, notBefore, issuedAt, tokenId, scope]

/-- The registered claim of a name. -/
def ofName? (name : String) : Option RegisteredClaim := all.find? (·.name = name)

/-- Names are told apart. -/
@[simp] theorem ofName?_name (c : RegisteredClaim) : ofName? c.name = some c := by
  cases c <;> decide

/-- A name that is found is the name of what is found. -/
theorem name_of_ofName? {n : String} {c : RegisteredClaim} (h : ofName? n = some c) :
    c.name = n := by
  simpa using List.find?_some h

/-- Whether a value has the shape that a claim asks for. -/
def accepts : RegisteredClaim → ClaimValue → Bool
  | subject, .text _ | issuer, .text _ | tokenId, .text _ => true
  | audience, .text _ | audience, .texts _ => true
  | scope, .text _ | scope, .texts _ => true
  | expirationTime, v | notBefore, v | issuedAt, v => v.instant?.isSome
  | _, _ => false

/-- The claims that are texts. -/
def texts : List RegisteredClaim := [subject, issuer, tokenId]

/-- The claims that are dates. -/
def dates : List RegisteredClaim := [expirationTime, notBefore, issuedAt]

section

variable {claim : RegisteredClaim} {v : ClaimValue}

/-- Where a text is asked for, texts are accepted. -/
theorem accepts_text_iff (h : claim ∈ texts) : claim.accepts v = true ↔ ∃ s, v = .text s := by
  simp only [texts, List.mem_cons, List.not_mem_nil, or_false] at h
  rcases h with rfl | rfl | rfl <;> cases v <;> simp [accepts]

/-- Where a date is asked for, numbers that stand for an instant are accepted. -/
theorem accepts_date_iff (h : claim ∈ dates) :
    claim.accepts v = true ↔ ∃ x t, v = .number x ∧ Instant.ofNumericDate? x = some t := by
  have hinstant : claim.accepts v = v.instant?.isSome := by
    simp only [dates, List.mem_cons, List.not_mem_nil, or_false] at h
    rcases h with rfl | rfl | rfl <;> rfl
  rw [hinstant, Option.isSome_iff_exists]
  cases v <;> simp [ClaimValue.instant?]

/-- An audience is a text or a list of texts. -/
theorem accepts_audience_iff :
    audience.accepts v = true ↔ (∃ s, v = .text s) ∨ ∃ l, v = .texts l := by
  cases v <;> simp [accepts]

end

/-- What is reported for a value of another shape. -/
def shapeError : RegisteredClaim → AuthError
  | subject => .invalidSubject
  | issuer => .invalidIssuer
  | audience => .invalidAudience
  | expirationTime => .invalidExpiration
  | notBefore => .invalidNotBefore
  | issuedAt => .invalidIssuedAt
  | tokenId | scope => .invalidClaims

end RegisteredClaim

end BearerAuth
