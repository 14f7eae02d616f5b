import BearerAuth.Proofs.Token.RoundTrip
import BearerAuth.Proofs.Trust

/-!
# Claims that are issued again

Claims that came in with a payload go out again in a token, and come back from it.  Their scopes
leave as one text with spaces between them, and are read between the spaces of that text.  So who
accepts the token finds the parts of each scope (`scopes_of_accept`), and these are the scopes that
were there before if each scope came in as a part of a text.  It did if the payload has its scopes
in one text; a payload that lists them may list one that is taken apart on its way.
-/

namespace BearerAuth

open Json (Source)
open Token (Compact Payload.toSegment Policy)

namespace Claims

variable {c d : Claims}

/-- What stands in the object of an issued payload segment is what is read of what was written. -/
theorem WellFormed.get?_object? (h : c.WellFormed) {segments : Compact} {payload : Dict Json}
    (hsegment : segments.payload = Payload.toSegment c.toPayload)
    (hobject : segments.object? = some payload) (name : String) :
    payload.get? name = (c.toPayload.get? name).bind fun v ↦ Source.toJsonAt 126 v.written := by
  simp only [Compact.object?, hsegment, Payload.toSegment, Base64.decode?_encode,
    Option.bind_eq_bind, Option.bind_some, Text.ofBytes?_toBytes,
    Json.ofText?_toText h.numeric_toPayload] at hobject
  exact Json.get?_of_toDict?_written hobject name

/-- Who accepts the payload of some claims finds the parts of each of their scopes. -/
theorem WellFormed.scopes_of_accept (h : c.WellFormed) {p : Policy} {now : Instant}
    {segments : Compact} (hsegment : segments.payload = Payload.toSegment c.toPayload)
    (haccept : p.accept now segments.payload = .ok d) : d.scopes = .parse c.scopes.toText := by
  obtain ⟨payload, hobject, hread, -⟩ := Policy.payload_of_accept haccept
  obtain ⟨-, -, hscopes⟩ := ofPayload_eq_ok_iff.mp hread
  have htext : payload.get? RegisteredClaim.scope.name =
      c.toPayload.get? RegisteredClaim.scope.name := by
    rw [h.get?_object? hsegment hobject, get?_toPayload]
    split
    · rfl
    · rw [h.get?_scope]
      rfl
  rw [hscopes, htext, h.scopes_toPayload]

/-- Scopes that come in as one text are neither empty nor hold a space. -/
theorem plain_of_ofPayload_text {payload : Dict Json} {text : String}
    (h : ofPayload payload = .ok c)
    (htext : payload.get? RegisteredClaim.scope.name = some (.string text)) :
    ∀ s ∈ c.scopes, s ≠ "" ∧ ' ' ∉ s.toList := by
  obtain ⟨-, -, hscopes⟩ := ofPayload_eq_ok_iff.mp h
  have hparse : c.scopes = .parse text := by rw [hscopes, htext]; rfl
  intro s hs
  rw [hparse] at hs
  exact ScopeSet.plain_of_mem_parse hs

end Claims

namespace JwtAuthenticator

variable {a : JwtAuthenticator} {random : Nat} {now : Instant} {token : String} {c d : Claims}

/-- Who accepts a token finds the parts of each scope that it was issued for. -/
theorem scopes_of_authenticateToken (hc : c.WellFormed)
    (hissue : a.createIdentity random c = .ok token)
    (haccept : a.authenticateToken now token = .ok d) : d.scopes = .parse c.scopes.toText := by
  obtain ⟨pair, key, signature, -, -, -, rfl⟩ := createIdentity_eq_ok_iff.mp hissue
  rw [a.authenticateToken_eq] at haccept
  obtain ⟨segments, hsegments, -, haccept⟩ := Policy.accept_of_authenticate haccept
  rw [ofText?_issued, Option.some.injEq] at hsegments
  subst hsegments
  exact hc.scopes_of_accept (payload_issued a c signature) haccept

/-- Claims of a payload that are issued again and accepted have the parts of each scope.  These are
the same scopes just if each scope is a single part, as in a payload that has them in one text. -/
theorem hasScope_of_reissue {payload : Dict Json} (hread : Claims.ofPayload payload = .ok c)
    (hissue : a.createIdentity random c = .ok token)
    (haccept : a.authenticateToken now token = .ok d) :
    (∀ s, d.hasScope s = true ↔ ∃ granted ∈ c.scopes, s ∈ ScopeSet.parse granted) ∧
      (d.scopes = c.scopes ↔ ∀ s ∈ c.scopes, s ≠ "" ∧ ' ' ∉ s.toList) ∧
      (∀ text, payload.get? RegisteredClaim.scope.name = some (.string text) →
        d.scopes = c.scopes) := by
  have hscopes := scopes_of_authenticateToken (Claims.wellFormed_ofPayload hread) hissue haccept
  have hsame : d.scopes = c.scopes ↔ ∀ s ∈ c.scopes, s ≠ "" ∧ ' ' ∉ s.toList := by
    rw [hscopes, ScopeSet.parse_toText_eq_iff]
  refine ⟨fun s ↦ ?_, hsame, fun text htext ↦ ?_⟩
  · rw [← ScopeSet.mem_parse_toText, ← hscopes, Claims.hasScope, ScopeSet.contains,
      decide_eq_true_eq]
  · exact hsame.mpr (Claims.plain_of_ofPayload_text hread htext)

/-- Claims with two scopes. -/
def readWriteClaims : Claims := ⟨.empty, .ofList ["read", "write"]⟩

/-- A token with these scopes. -/
def readWrite : String :=
  "eyJ0eXAiOiJKV1QiLCJhbGciOiJIUzI1NiJ9.eyJzY29wZSI6InJlYWQgd3JpdGUifQ" ++
    ".knIzLIkEB2viDSOFyO0UpeCBpcbbbsxkh5BYGyOqx4A"

/-- The claims come in with both scopes in one text. -/
theorem ofPayload_readWrite :
    Claims.ofPayload (.ofList [("scope", .string "write  read")]) = .ok readWriteClaims := by
  decide

/-- The token is issued for them. -/
theorem createIdentity_readWrite :
    (ofSecret .hs256 [107]).createIdentity 0 readWriteClaims = .ok readWrite := by
  decide +kernel

/-- The token is answered with them. -/
theorem authenticateToken_readWrite :
    (ofSecret .hs256 [107]).authenticateToken .epoch readWrite = .ok readWriteClaims := by
  have hwhole : ∀ name value, readWriteClaims.get? name = some value → value.IsWhole := by
    intro name value h
    rw [Claims.get?, readWriteClaims, Dict.get?_empty] at h
    cases h
  rw [authenticateToken_issued rfl createIdentity_readWrite,
    accept_toPayload _ (Claims.wellFormed_ofPayload ofPayload_readWrite) hwhole]
  decide

/-- The token is issued for a payload that has the two scopes in one text, and its scopes are the
same. -/
theorem hasScope_of_reissue_text :
    Claims.ofPayload (.ofList [("scope", .string "write  read")]) = .ok readWriteClaims ∧
      (ofSecret .hs256 [107]).createIdentity 0 readWriteClaims = .ok readWrite ∧
      ∃ d, (ofSecret .hs256 [107]).authenticateToken .epoch readWrite = .ok d ∧
        d.hasScope "read" = true ∧ d.scopes = readWriteClaims.scopes := by
  obtain ⟨hparts, -, htext⟩ :=
    hasScope_of_reissue ofPayload_readWrite createIdentity_readWrite authenticateToken_readWrite
  refine ⟨ofPayload_readWrite, createIdentity_readWrite, _, authenticateToken_readWrite,
    (hparts "read").mpr ?_, htext "write  read" ?_⟩
  · exact ⟨"read", by decide, by decide⟩
  · decide

/-- The same token is issued for a payload that lists a single scope with a space in it, and its
scopes are others. -/
theorem hasScope_of_listed_space :
    ∃ c, Claims.ofPayload (.ofList [("scope", .ofStrings ["read write"])]) = .ok c ∧
      (ofSecret .hs256 [107]).createIdentity 0 c = .ok readWrite ∧
      (ofSecret .hs256 [107]).authenticateToken .epoch readWrite = .ok readWriteClaims ∧
      readWriteClaims.hasScope "read" = true ∧ c.hasScope "read" = false ∧
      readWriteClaims.scopes ≠ c.scopes := by
  have hpayload : (⟨.empty, .ofList ["read write"]⟩ : Claims).toPayload =
      readWriteClaims.toPayload := by decide
  have hissue := (createIdentity_congr hpayload).trans createIdentity_readWrite
  refine ⟨_, ?_, hissue, authenticateToken_readWrite, ?_, ?_, ?_⟩
  all_goals decide

end JwtAuthenticator

end BearerAuth
