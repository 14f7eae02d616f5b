import BearerAuth.Claims.ScopeSet
import BearerAuth.Claims.Value

/-!
# Claims

`Claims` is what is known about an authenticated caller: values under names, and a set of scopes.
Scopes are kept apart from the values, so no value stands under the name `scope`.  Whatever puts a
value under a registered name checks its shape, so the readers of registered claims (`subject`,
`expirationTime`, …) find them readable.
-/

namespace BearerAuth

/-- The claims about a caller. -/
@[ext]
structure Claims where
  /-- The values under their names, scopes apart. -/
  values : Dict ClaimValue
  /-- What the caller may do. -/
  scopes : ScopeSet
  deriving DecidableEq

namespace Claims

/-- No claims at all. -/
def empty : Claims := ⟨.empty, .empty⟩

instance : Inhabited Claims := ⟨empty⟩

/-- Whether nothing is claimed. -/
def isEmpty (c : Claims) : Bool := c.values.isEmpty && c.scopes.isEmpty

/-! ## Putting claims in -/

/-- The claims with a value under a registered name, whose shape the caller vouches for. -/
def put (c : Claims) (claim : RegisteredClaim) (value : ClaimValue) : Claims :=
  { c with values := c.values.insert claim.name value }

/-- The claims with a subject. -/
def withSubject (c : Claims) (s : String) : Claims := c.put .subject (.text s)

/-- The claims with an issuer. -/
def withIssuer (c : Claims) (s : String) : Claims := c.put .issuer (.text s)

/-- The claims with an audience. -/
def withAudience (c : Claims) (l : List String) : Claims := c.put .audience (.texts l)

/-- The claims with an identifier of the token. -/
def withTokenId (c : Claims) (s : String) : Claims := c.put .tokenId (.text s)

/-- The claims with some more scopes. -/
def withScopes (c : Claims) (l : List String) : Claims :=
  { c with scopes := c.scopes.insertMany l }

/-- The claims with one more scope. -/
def withScope (c : Claims) (s : String) : Claims := c.withScopes [s]

/-- Whether a value may stand under a name: registered names ask for their shape, other names take
every value but a number that is not finite. -/
def accepts (name : String) (value : ClaimValue) : Bool :=
  match RegisteredClaim.ofName? name with
  | some claim => claim.accepts value
  | none =>
    match value with
    | .number x => x.isFinite
    | _ => true

/-- What is reported for a value that may not stand under a name. -/
def shapeError (name : String) : AuthError :=
  match RegisteredClaim.ofName? name with
  | some claim => claim.shapeError
  | none => .invalidClaims

/-- Puts a value under a name, in place of what was there; under the name `scope` it replaces all
scopes.  Fails if the value may not stand under the name. -/
def set (name : String) (value : ClaimValue) : EStateM AuthError Claims Unit := do
  if name = RegisteredClaim.scope.name then
    let scopes ← match value with
      | .text s => pure (.parse s)
      | .texts l => pure (.ofList l)
      | .number _ => throw .invalidClaims
    modify ({ · with scopes })
  else
    unless accepts name value do throw (shapeError name)
    modify fun c ↦ { c with values := c.values.insert name value }

/-- Puts a date under a registered name; parts of a second are left out. -/
def setDate (claim : RegisteredClaim) (t : Instant) : EStateM AuthError Claims Unit :=
  set claim.name (.number (.ofInt t.seconds))

/-- What comes of doing something to a copy of the claims. -/
def attempt (c : Claims) (op : EStateM AuthError Claims Unit) : Except AuthError Claims :=
  match op.run c with
  | .ok _ d => .ok d
  | .error e _ => .error e

theorem attempt_eq_ok_iff {c d : Claims} {op : EStateM AuthError Claims Unit} :
    c.attempt op = .ok d ↔ op.run c = .ok () d := by
  rw [attempt]
  cases op.run c <;> simp

theorem attempt_eq_error_iff {c : Claims} {op : EStateM AuthError Claims Unit} {e : AuthError} :
    c.attempt op = .error e ↔ ∃ d, op.run c = .error e d := by
  rw [attempt]
  cases op.run c <;> simp

/-- The claims without the value of a name.  Scopes are no value and stay. -/
def remove (c : Claims) (name : String) : Claims := { c with values := c.values.erase name }

/-! ## Reading claims -/

/-- The value of a name. -/
def get? (c : Claims) (name : String) : Option ClaimValue := c.values.get? name

/-- The text of a name; `none` if there is no value, an error if it is no text. -/
def getText (c : Claims) (name : String) : Except AuthError (Option String) :=
  match c.get? name with
  | none => .ok none
  | some (.text s) => .ok (some s)
  | some _ => .error .invalidType

/-- The list of texts of a name; a single text counts as a list of one. -/
def getTexts (c : Claims) (name : String) : Except AuthError (Option (List String)) :=
  match c.get? name with
  | none => .ok none
  | some (.text s) => .ok (some [s])
  | some (.texts l) => .ok (some l)
  | some (.number _) => .error .invalidType

/-- The number of a name. -/
def getNumber (c : Claims) (name : String) : Except AuthError (Option Binary64) :=
  match c.get? name with
  | none => .ok none
  | some (.number x) => .ok (some x)
  | some _ => .error .invalidType

/-- The date of a name. -/
def getDate (c : Claims) (name : String) : Except AuthError (Option Instant) :=
  match c.get? name with
  | none => .ok none
  | some value =>
    match value.instant? with
    | some t => .ok (some t)
    | none => .error .invalidType

/-- What was found; an error counts as nothing. -/
def found {α : Type} : Except AuthError (Option α) → Option α
  | .ok a => a
  | .error _ => none

/-- Who the claims speak of. -/
def subject (c : Claims) : Option String := found (c.getText RegisteredClaim.subject.name)

/-- Who issued the claims. -/
def issuer (c : Claims) : Option String := found (c.getText RegisteredClaim.issuer.name)

/-- Whom the claims are for. -/
def audience (c : Claims) : List String :=
  (found (c.getTexts RegisteredClaim.audience.name)).getD []

/-- When the claims cease to hold. -/
def expirationTime (c : Claims) : Option Instant :=
  found (c.getDate RegisteredClaim.expirationTime.name)

/-- When the claims begin to hold. -/
def notBefore (c : Claims) : Option Instant := found (c.getDate RegisteredClaim.notBefore.name)

/-- When the claims were issued. -/
def issuedAt (c : Claims) : Option Instant := found (c.getDate RegisteredClaim.issuedAt.name)

/-- The identifier of the token. -/
def tokenId (c : Claims) : Option String := found (c.getText RegisteredClaim.tokenId.name)

/-- Whether the caller has a scope. -/
def hasScope (c : Claims) (s : String) : Bool := c.scopes.contains s

/-! ## What setting does -/

/-- The scopes that a value under the name `scope` stands for. -/
def scopesOf : ClaimValue → ScopeSet
  | .text s => .parse s
  | .texts l => .ofList l
  | .number _ => .empty

/-- The claims with a value in its place: the scopes, if it stands under their name, and the values
otherwise. -/
def place (c : Claims) (name : String) (value : ClaimValue) : Claims :=
  if name = RegisteredClaim.scope.name then { c with scopes := scopesOf value }
  else { c with values := c.values.insert name value }

/-- A value that is accepted goes to its place; one that is not leaves the claims as they are. -/
theorem run_set (c : Claims) (name : String) (value : ClaimValue) :
    (set name value).run c =
      if accepts name value then .ok () (c.place name value) else .error (shapeError name) c := by
  rw [set, place]
  split
  · next hscope =>
    subst hscope
    cases value <;> rfl
  · cases accepts name value <;> rfl

theorem run_set_eq_ok_iff {c d : Claims} {name : String} {value : ClaimValue} :
    (set name value).run c = .ok () d ↔ accepts name value = true ∧ d = c.place name value := by
  rw [run_set]
  split
  · next hacc => simp [hacc, eq_comm]
  · next hacc => simp [hacc]

theorem run_set_eq_error_iff {c d : Claims} {name : String} {value : ClaimValue} {e : AuthError} :
    (set name value).run c = .error e d ↔
      ¬accepts name value = true ∧ e = shapeError name ∧ d = c := by
  rw [run_set]
  split
  · next hacc => simp [hacc]
  · next hacc => simp [hacc, eq_comm]

theorem get?_place (c : Claims) (name other : String) (value : ClaimValue) :
    (c.place name value).get? other =
      if other = name ∧ name ≠ RegisteredClaim.scope.name then some value else c.get? other := by
  rw [place]
  split
  · next hscope => simp [hscope, get?]
  · next hscope => simp [hscope, get?, Dict.get?_insert]

theorem scopes_place (c : Claims) (name : String) (value : ClaimValue) :
    (c.place name value).scopes =
      if name = RegisteredClaim.scope.name then scopesOf value else c.scopes := by
  rw [place]
  split <;> rfl

/-! ## Well-formed claims -/

/-- Claims are well formed when each value has the shape that its name asks for, nothing
stands under the name `scope`, and other numbers are finite. -/
def WellFormed (c : Claims) : Prop :=
  ∀ name value, c.get? name = some value →
    name ≠ RegisteredClaim.scope.name ∧ accepts name value = true

/-- Setting a claim keeps claims well formed. -/
theorem WellFormed.set {c d : Claims} {name : String} {value : ClaimValue} (h : c.WellFormed)
    (hset : (set name value).run c = .ok () d) : d.WellFormed := by
  obtain ⟨hacc, rfl⟩ := run_set_eq_ok_iff.mp hset
  intro n v hv
  rw [get?_place] at hv
  split at hv
  · next hname =>
    obtain ⟨rfl, hscope⟩ := hname
    cases hv
    exact ⟨hscope, hacc⟩
  · exact h n v hv

/-- No claims are well formed. -/
theorem wellFormed_empty : empty.WellFormed := fun _ _ h ↦ nomatch h

/-- Removing a claim keeps claims well formed. -/
theorem WellFormed.remove {c : Claims} (h : c.WellFormed) (name : String) :
    (c.remove name).WellFormed := by
  intro n v hv
  rw [get?, Claims.remove, Dict.get?_erase] at hv
  split at hv
  · cases hv
  · exact h n v hv

end Claims

end BearerAuth
