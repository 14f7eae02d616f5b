import BearerAuth.Proofs.Claims.Payload

/-!
# Claims that callers can make

Callers cannot write claims down as they like: they begin with none or with those of a payload, and
go on with the operations offered, also after one that fails, which changes nothing
(`Operation.eq_of_run_eq_error`).  `Reachable` says which claims come about in this way.  All of
them are well formed (`Reachable.wellFormed`), although the operations of registered claims put
their values in without a check.
-/

namespace BearerAuth.Claims

/-- What a caller may do with claims. -/
inductive Operation where
  /-- Gives the claims a subject. -/
  | withSubject (s : String)
  /-- Gives the claims an issuer. -/
  | withIssuer (s : String)
  /-- Gives the claims an audience. -/
  | withAudience (l : List String)
  /-- Gives the claims an identifier of the token. -/
  | withTokenId (s : String)
  /-- Adds a scope. -/
  | withScope (s : String)
  /-- Adds some scopes. -/
  | withScopes (l : List String)
  /-- Puts any value under any name. -/
  | set (name : String) (value : ClaimValue)
  /-- Gives the claims an expiration time. -/
  | setExpirationTime (t : Instant)
  /-- Gives the claims a time before which they do not hold. -/
  | setNotBefore (t : Instant)
  /-- Gives the claims a time of issue. -/
  | setIssuedAt (t : Instant)
  /-- Takes the value of a name away. -/
  | remove (name : String)
  /-- Inserts into the scopes. -/
  | insertScope (s : String)
  /-- Removes from the scopes. -/
  | eraseScope (s : String)

namespace Operation

/-- Does an operation to the claims at hand. -/
def perform : Operation → EStateM AuthError Claims Unit
  | withSubject s => modify (·.withSubject s)
  | withIssuer s => modify (·.withIssuer s)
  | withAudience l => modify (·.withAudience l)
  | withTokenId s => modify (·.withTokenId s)
  | withScope s => modify (·.withScope s)
  | withScopes l => modify (·.withScopes l)
  | set name value => Claims.set name value
  | setExpirationTime t => setDate .expirationTime t
  | setNotBefore t => setDate .notBefore t
  | setIssuedAt t => setDate .issuedAt t
  | remove name => modify (·.remove name)
  | insertScope s => modify fun c ↦ { c with scopes := c.scopes.insert s }
  | eraseScope s => modify fun c ↦ { c with scopes := c.scopes.erase s }

/-- The claims that an operation leaves, whether it succeeds or fails. -/
def after (c : Claims) (op : Operation) : Claims :=
  match op.perform.run c with
  | .ok _ d => d
  | .error _ d => d

/-- A date that is refused changes nothing. -/
theorem eq_of_run_setDate_eq_error {c d : Claims} {claim : RegisteredClaim} {t : Instant}
    {e : AuthError} (h : (setDate claim t).run c = .error e d) : d = c :=
  (run_set_eq_error_iff.mp h).2.2

/-- An operation that fails changes nothing. -/
theorem eq_of_run_eq_error {op : Operation} {c d : Claims} {e : AuthError}
    (h : op.perform.run c = .error e d) : d = c := by
  cases op with
  | set name value => exact (run_set_eq_error_iff.mp h).2.2
  | setExpirationTime t => exact eq_of_run_setDate_eq_error h
  | setNotBefore t => exact eq_of_run_setDate_eq_error h
  | setIssuedAt t => exact eq_of_run_setDate_eq_error h
  | withSubject | withIssuer | withAudience | withTokenId | withScope | withScopes => cases h
  | remove | insertScope | eraseScope => cases h

end Operation

/-- Claims that come about by operations, from no claims or from those of a payload. -/
inductive Reachable : Claims → Prop
  /-- No claims are where callers begin. -/
  | empty : Reachable .empty
  /-- The claims of a payload are where callers begin. -/
  | ofPayload {payload : Dict Json} {c : Claims} : Claims.ofPayload payload = .ok c → Reachable c
  /-- An operation leads on. -/
  | after {c : Claims} (op : Operation) : Reachable c → Reachable (op.after c)

/-! ## Well-formed claims -/

/-- Putting in a registered claim of its shape is setting it. -/
theorem run_set_name {claim : RegisteredClaim} {value : ClaimValue} (c : Claims)
    (hacc : claim.accepts value = true) (hscope : claim ≠ .scope) :
    (set claim.name value).run c = .ok () (c.put claim value) := by
  have hname : claim.name ≠ RegisteredClaim.scope.name := fun h ↦ hscope <| by
    simpa using congrArg RegisteredClaim.ofName? h
  rw [run_set, accepts_name, if_pos hacc, place, if_neg hname, put]

/-- Scopes are no part of what makes claims well formed. -/
theorem WellFormed.withScopes {c : Claims} (h : c.WellFormed) (scopes : ScopeSet) :
    { c with scopes }.WellFormed := h

/-- Setting a date keeps claims well formed. -/
theorem WellFormed.setDate {c d : Claims} {claim : RegisteredClaim} {t : Instant} (h : c.WellFormed)
    (hset : (setDate claim t).run c = .ok () d) : d.WellFormed := h.set hset

/-- What an operation makes of well-formed claims is well formed. -/
theorem WellFormed.perform {c d : Claims} (h : c.WellFormed) {op : Operation}
    (hop : op.perform.run c = .ok () d) : d.WellFormed := by
  cases op with
  | withSubject s => exact h.set ((run_set_name c rfl (by decide)).trans hop)
  | withIssuer s => exact h.set ((run_set_name c rfl (by decide)).trans hop)
  | withAudience l => exact h.set ((run_set_name c rfl (by decide)).trans hop)
  | withTokenId s => exact h.set ((run_set_name c rfl (by decide)).trans hop)
  | withScope s => cases hop; exact h.withScopes _
  | withScopes l => cases hop; exact h.withScopes _
  | set name value => exact h.set hop
  | setExpirationTime t => exact h.setDate hop
  | setNotBefore t => exact h.setDate hop
  | setIssuedAt t => exact h.setDate hop
  | remove name => cases hop; exact h.remove name
  | insertScope s => cases hop; exact h.withScopes _
  | eraseScope s => cases hop; exact h.withScopes _

/-- The claims after an operation are well formed if they were before. -/
theorem WellFormed.after {c : Claims} (h : c.WellFormed) (op : Operation) :
    (op.after c).WellFormed := by
  rw [Operation.after]
  split
  · next hop => exact h.perform hop
  · next hop => rwa [Operation.eq_of_run_eq_error hop]

/-- The claims of a payload are well formed. -/
theorem wellFormed_ofPayload {payload : Dict Json} {c : Claims}
    (h : Claims.ofPayload payload = .ok c) : c.WellFormed := by
  obtain ⟨hfits, hget, -⟩ := ofPayload_eq_ok_iff.mp h
  intro name value hvalue
  rw [hget] at hvalue
  split at hvalue
  · cases hvalue
  · next hname =>
    obtain ⟨v, hv, hread⟩ := Option.bind_eq_some_iff.mp hvalue
    have hacc := hfits name v hv
    rw [Fits, hread] at hacc
    exact ⟨hname, hacc⟩

/-- Claims that callers can make are well formed. -/
theorem Reachable.wellFormed {c : Claims} (h : c.Reachable) : c.WellFormed := by
  induction h with
  | empty => exact wellFormed_empty
  | ofPayload h => exact wellFormed_ofPayload h
  | after op _ ih => exact ih.after op

end BearerAuth.Claims
