import BearerAuth.Proofs.Token.Issued
import Mathlib.Control.Monad.Basic

/-!
# Issuing and accepting tokens

A token that is issued with a secret and sent back is answered with the claims that it was issued
for, as long as they hold, and afterwards with the error that it has expired.
-/

namespace BearerAuth

open Token (Policy)

namespace Claims

/-- A window does not see the difference between claims and what is read back. -/
theorem admits_reread (w : Window) (now : Instant) (c : Claims) :
    w.admits now c.reread = w.admits now c := by
  rw [Window.admits, Window.admits, expirationTime, notBefore, getDate_reread, getDate_reread]
  rfl

end Claims

namespace JwtAuthenticator

variable {a : JwtAuthenticator} {random : Nat} {c : Claims} {token : String}

/-- Well-formed claims with whole numbers are read back from a payload that is trusted. -/
theorem accept_toPayload (p : Policy) (hc : c.WellFormed)
    (hwhole : ∀ name value, c.get? name = some value → value.IsWhole) (now : Instant) :
    p.accept now (Token.Payload.toSegment c.toPayload) = p.window.check now c.reread := by
  rw [Policy.accept, hc.ofSegment_toPayload hwhole]
  change (Claims.ofPayload c.toPayload >>= p.window.check now) = _
  rw [Claims.ofPayload_toPayload hc]
  rfl

/-- A token issued with a secret is answered with the claims that it was issued for while they hold,
and with the error that it has expired otherwise. -/
theorem authenticateToken_of_createIdentity
    (halgorithm : a.algorithm = .hs256 ∨ a.algorithm = .hs384 ∨ a.algorithm = .hs512)
    (hc : c.Reachable) (hscopes : ∀ s ∈ c.scopes, s ≠ "" ∧ ' ' ∉ s.toList)
    (hwhole : ∀ name value, c.get? name = some value → value.IsWhole)
    (hissue : a.createIdentity random c = .ok token) (now : Instant) :
    ∃ d, d.SameAs c ∧ a.authenticateToken now token =
      if a.window.admits now c then .ok d else .error .tokenExpired := by
  have hfamily : a.algorithm.family = .hmac := by
    rcases halgorithm with h | h | h <;> rw [h] <;> rfl
  obtain ⟨pair, key, signature, hpair, hkey, hsign, rfl⟩ := createIdentity_eq_ok_iff.mp hissue
  have htrusts := trusts_issued hfamily hpair hkey hsign
  refine ⟨c.reread, Claims.sameAs_reread hc.wellFormed hscopes, ?_⟩
  calc a.authenticateToken now (a.issued c signature).toText
      = a.policy.authenticate now (a.issued c signature).toText := a.authenticateToken_eq _ _
    _ = a.policy.accept now (a.issued c signature).payload :=
      Policy.authenticate_of_trusts (ofText?_issued a c signature) htrusts
    _ = a.window.check now c.reread := accept_toPayload a.policy hc.wellFormed hwhole now
    _ = if a.window.admits now c then .ok c.reread else .error .tokenExpired := by
      rw [Window.check, Claims.admits_reread]

/-! ## A token that holds for a second -/

/-- The authenticator of one secret, which has an identifier that headers must name. -/
def named : JwtAuthenticator where
  algorithm := .hs256
  resolver := some fun header ↦ if header.keyId = some "k" then some (.ofSecret [107]) else none
  keyId := some "k"
  window := .exact

/-- Claims with a quote, a scope, a zero below zero, and an end one second after the start of
1970. -/
def brief : Claims :=
  let subject := Claims.Operation.after .empty (.withSubject "ü\"")
  let ending := Claims.Operation.after subject (.set "exp" (.number (.ofInt 1)))
  let zero := Claims.Operation.after ending (.set "zero" (.number (.zero true)))
  Claims.Operation.after zero (.withScope "read")

/-- The token that is issued for these claims. -/
def briefToken : String :=
  "eyJ0eXAiOiJKV1QiLCJhbGciOiJIUzI1NiIsImtpZCI6ImsifQ" ++
    ".eyJleHAiOjEsInNjb3BlIjoicmVhZCIsInN1YiI6IsO8XCIiLCJ6ZXJvIjowfQ" ++
    ".rZW_fC8XLEGxdiyfrvH7BwvQWdNDiAPFYyVFxBUUmq4"

/-- The token is answered with these claims in its one second, and not after it. -/
theorem authenticateToken_of_createIdentity_brief :
    named.createIdentity 0 brief = .ok briefToken ∧
      (∃ d, d.SameAs brief ∧ named.authenticateToken .epoch briefToken = .ok d) ∧
      named.authenticateToken ⟨1, 0, by decide, by decide, by decide⟩ briefToken =
        .error .tokenExpired := by
  have hissue : named.createIdentity 0 brief = .ok briefToken := by decide +kernel
  have hreachable : brief.Reachable := by
    unfold brief
    refine .after (.withScope "read") (.after (.set "zero" (.number (.zero true))) ?_)
    exact .after (.set "exp" (.number (.ofInt 1))) (.after (.withSubject "ü\"") .empty)
  have hscopes : ∀ s ∈ brief.scopes, s ≠ "" ∧ ' ' ∉ s.toList := by
    have hlist : ∀ s ∈ brief.scopes.toList, s ≠ "" ∧ ' ' ∉ s.toList := by decide +kernel
    exact hlist
  have hwhole : ∀ name value, brief.get? name = some value → value.IsWhole := by
    intro name value h
    have hentries : brief.values.entries = [("exp", .number (.ofInt 1)), ("sub", .text "ü\""),
        ("zero", .number (.zero true))] := by decide +kernel
    have hmem := Dict.mem_entries_iff.mpr h
    rw [hentries] at hmem
    simp only [List.mem_cons, Prod.mk.injEq, List.not_mem_nil, or_false] at hmem
    rcases hmem with ⟨-, rfl⟩ | ⟨-, rfl⟩ | ⟨-, rfl⟩
    · exact ⟨1, by decide +kernel, by decide⟩
    · trivial
    · exact ⟨0, by decide +kernel, by decide⟩
  have hanswer := authenticateToken_of_createIdentity (.inl rfl) hreachable hscopes hwhole hissue
  refine ⟨hissue, ?_, ?_⟩
  · obtain ⟨d, hd, heq⟩ := hanswer .epoch
    exact ⟨d, hd, heq.trans (if_pos (by decide +kernel))⟩
  · obtain ⟨d, -, heq⟩ := hanswer ⟨1, 0, by decide, by decide, by decide⟩
    exact heq.trans (if_neg (by decide +kernel))

end JwtAuthenticator

end BearerAuth
