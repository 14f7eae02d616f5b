import BearerAuth.Proofs.Claims.Setting
import BearerAuth.Proofs.Token.Reissue

/-!
# Removing claims

What is removed from claims is gone from their payload, and from every token that is issued for them
afterwards, while all other members of the payload stay (`get?_toPayload_remove`,
`not_asserts_of_remove`).

This does not go for the scopes.  A payload shows them under a name, and they can be set under this
name, but they are no value, and `remove` looks among the values only: under their name it does
nothing at all (`WellFormed.remove_scope`), and whoever was to lose the scopes keeps them
(`reissued_after_remove_scope`).  Setting no scopes takes them away (`get?_toPayload_place_scope`).
-/

namespace BearerAuth

open Token (Compact Policy)

/-- Whether a token has a member of some name in its payload. -/
def Token.Asserts (token name : String) : Prop :=
  ∃ segments payload, Compact.ofText? token = some segments ∧ segments.object? = some payload ∧
    (payload.get? name).isSome = true

/-- A token that is accepted with a scope has a member of the scopes. -/
theorem Token.asserts_of_mem_scopes {p : Policy} {now : Instant} {token s : String} {c : Claims}
    (h : p.authenticate now token = .ok c) (hs : s ∈ c.scopes) :
    Asserts token RegisteredClaim.scope.name := by
  obtain ⟨segments, hsegments, -, haccept⟩ := Policy.accept_of_authenticate h
  obtain ⟨payload, hobject, hread, -⟩ := Policy.payload_of_accept haccept
  obtain ⟨v, hv, -⟩ := (Claims.mem_scopes_iff_of_ofPayload hread).mp hs
  exact ⟨segments, payload, hsegments, hobject, by rw [hv]; rfl⟩

namespace Claims

variable {c : Claims} {name : String}

theorem get?_remove (c : Claims) (name other : String) :
    (c.remove name).get? other = if other = name then none else c.get? other := by
  rw [get?, remove, Dict.get?_erase, get?]

/-- What is removed leaves the payload, and nothing else does. -/
theorem get?_toPayload_remove (c : Claims) (h : name ≠ RegisteredClaim.scope.name)
    (other : String) :
    (c.remove name).toPayload.get? other =
      if other = name then none else c.toPayload.get? other := by
  have hscopes : (c.remove name).scopes = c.scopes := rfl
  rw [get?_toPayload, get?_toPayload, hscopes, get?_remove]
  by_cases hother : other = name
  · rw [hother, if_neg fun hand ↦ h hand.1, if_pos rfl, if_pos rfl]
    rfl
  · rw [if_neg hother, if_neg hother]

/-- No value stands under the name of the scopes, so that there is nothing to remove. -/
theorem WellFormed.remove_scope (h : c.WellFormed) : c.remove RegisteredClaim.scope.name = c := by
  refine Claims.ext (Dict.ext_get? fun other ↦ ?_) rfl
  change (c.remove RegisteredClaim.scope.name).get? other = c.get? other
  rw [get?_remove]
  split
  · next hother => rw [hother, h.get?_scope]
  · rfl

/-- When no scopes are set, their text leaves the payload, and nothing else does. -/
theorem WellFormed.get?_toPayload_place_scope (h : c.WellFormed) (other : String) :
    (c.place RegisteredClaim.scope.name (.texts [])).toPayload.get? other =
      if other = RegisteredClaim.scope.name then none else c.toPayload.get? other := by
  have hscopes : (c.place RegisteredClaim.scope.name (.texts [])).scopes.isEmpty = true := by
    rw [scopes_place, if_pos rfl]
    rfl
  rw [get?_toPayload, get?_toPayload, hscopes, get?_place, if_neg (by simp), if_neg (by simp)]
  by_cases hother : other = RegisteredClaim.scope.name
  · rw [hother, h.get?_scope, if_pos rfl]
    rfl
  · rw [if_neg hother, if_neg fun hand ↦ hother hand.1]

/-- A token asserts nothing but what is in the payload of the claims that it was issued for. -/
theorem WellFormed.isSome_of_asserts (h : c.WellFormed) {a : JwtAuthenticator} {random : Nat}
    {token : String} (hissue : a.createIdentity random c = .ok token)
    (hasserts : Token.Asserts token name) : (c.toPayload.get? name).isSome = true := by
  obtain ⟨_, _, signature, -, -, -, rfl⟩ := JwtAuthenticator.createIdentity_eq_ok_iff.mp hissue
  obtain ⟨segments, payload, hsegments, hobject, hmember⟩ := hasserts
  rw [JwtAuthenticator.ofText?_issued, Option.some.injEq] at hsegments
  subst hsegments
  rw [h.get?_object? (JwtAuthenticator.payload_issued a c signature) hobject] at hmember
  exact Option.isSome_of_isSome_bind hmember

/-- What is removed from claims is asserted by no token that is issued for them. -/
theorem WellFormed.not_asserts_of_remove (h : c.WellFormed)
    (hname : name ≠ RegisteredClaim.scope.name) {a : JwtAuthenticator} {random : Nat}
    {token : String} (hissue : a.createIdentity random (c.remove name) = .ok token) :
    ¬Token.Asserts token name := by
  intro hasserts
  have hmember := (h.remove name).isSome_of_asserts hissue hasserts
  rw [get?_toPayload_remove c hname, if_pos rfl] at hmember
  cases hmember

/-- Of claims that callers can make, what is removed leaves the payload, and no token asserts it any
more; the rest of the payload stays.  But the scopes are not removed under their name: nothing
changes then.  They leave the payload, and nothing else does, when no scopes are set. -/
theorem Reachable.toPayload_remove (h : c.Reachable) :
    (∀ name, name ≠ RegisteredClaim.scope.name →
      (∀ other, (c.remove name).toPayload.get? other =
        if other = name then none else c.toPayload.get? other) ∧
      ∀ (a : JwtAuthenticator) random token,
        a.createIdentity random (c.remove name) = .ok token → ¬Token.Asserts token name) ∧
    c.remove RegisteredClaim.scope.name = c ∧
    ∃ d, (set RegisteredClaim.scope.name (.texts [])).run c = .ok () d ∧
      ∀ other, d.toPayload.get? other =
        if other = RegisteredClaim.scope.name then none else c.toPayload.get? other := by
  have hwell := h.wellFormed
  refine ⟨fun name hname ↦ ⟨get?_toPayload_remove c hname, fun a random token hissue ↦ ?_⟩,
    hwell.remove_scope, _, run_set_eq_ok_iff.mpr ⟨by simp [RegisteredClaim.accepts], rfl⟩,
    hwell.get?_toPayload_place_scope⟩
  exact hwell.not_asserts_of_remove hname hissue

/-- The subject of someone who may read is removed, and what may be read stays; it stays as well
when it is the scope that is removed. -/
theorem Reachable.toPayload_remove_reader :
    reader.Reachable ∧ reader.toPayload.get? "sub" = some (.string "ann") ∧
      (reader.remove "sub").toPayload.get? "sub" = none ∧
      (reader.remove "sub").toPayload.get? "scope" = some (.string "read") ∧
      reader.remove "scope" = reader := by
  have hreachable : reader.Reachable :=
    .after (.withScope "read") (.after (.withSubject "ann") .empty)
  obtain ⟨hremove, hscope, -⟩ := hreachable.toPayload_remove
  obtain ⟨hpayload, -⟩ := hremove "sub" (by decide)
  refine ⟨hreachable, by decide, ?_, ?_, hscope⟩
  · exact hpayload "sub"
  · rw [hpayload "scope"]
    decide

/-- Of claims with two scopes the member of the scopes is removed, yet it is still in the payload,
and a token that is issued for the claims asserts and grants both. -/
theorem reissued_after_remove_scope :
    JwtAuthenticator.readWriteClaims.Reachable ∧
      (JwtAuthenticator.readWriteClaims.remove "scope").toPayload.get? "scope" =
        some (.string "read write") ∧
      (JwtAuthenticator.ofSecret .hs256 [107]).createIdentity 0
        (JwtAuthenticator.readWriteClaims.remove "scope") = .ok JwtAuthenticator.readWrite ∧
      Token.Asserts JwtAuthenticator.readWrite "scope" ∧
      ∃ d, (JwtAuthenticator.ofSecret .hs256 [107]).authenticateToken .epoch
          JwtAuthenticator.readWrite = .ok d ∧
        d.hasScope "read" = true ∧ d.hasScope "write" = true := by
  have hreachable : JwtAuthenticator.readWriteClaims.Reachable :=
    .ofPayload JwtAuthenticator.ofPayload_readWrite
  have haccept := JwtAuthenticator.authenticateToken_readWrite
  have hsame : JwtAuthenticator.readWriteClaims.remove "scope" = JwtAuthenticator.readWriteClaims :=
    hreachable.wellFormed.remove_scope
  rw [hsame]
  refine ⟨hreachable, by decide, JwtAuthenticator.createIdentity_readWrite, ?_, _, haccept,
    by decide, by decide⟩
  rw [JwtAuthenticator.authenticateToken_eq] at haccept
  exact Token.asserts_of_mem_scopes haccept (s := "read") (by decide)

end Claims

end BearerAuth
