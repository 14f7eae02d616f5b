import BearerAuth.Proofs.Context.Credential
import BearerAuth.Proofs.Token.Signing
import BearerAuth.Proofs.Trust
import BearerAuth.Service.Guard
import Mathlib.Control.Monad.Basic

/-!
# Tokens on their way

An issued token has to reach whoever verifies it.  It consists of base 64 and dots, so it can stand
in a header, holds no space and is never empty; therefore it arrives by either carrier, and through
a client and a guard, and is judged as if it had been handed over by itself.

Issuing may draw a random number, and issuing again another one.  The token may then be another one
too, but whether there is one does not depend on chance (`JwtAuthenticator.exists_createIdentity`).
-/

namespace BearerAuth

open Service (Handler Reply Request whoAmI)
open Token (Algorithm Compact)

/-! ## The text of tokens -/

/-- Base 64 can be read in a header. -/
theorem Base64.isVisible_of_mem_encode {t : Base64.Alphabet} {l : List UInt8} {x : Char}
    (h : x ∈ Base64.encode t l) : HeaderValue.IsVisible x := by
  have hdigits : ∀ n : Fin 64, HeaderValue.IsVisible (t.digit n) := by cases t <;> decide
  obtain ⟨n, hn, rfl⟩ := Base64.exists_digit_of_mem_encode h
  exact hdigits ⟨n, hn⟩

namespace JwtAuthenticator

variable {a : JwtAuthenticator} {random : Nat} {c : Claims} {token : String}

/-- The segments of a token and the dots between them can be read in a header. -/
theorem isVisible_of_mem_issued {signature : List UInt8} {x : Char}
    (h : x ∈ (a.issued c signature).toText.toList) : HeaderValue.IsVisible x := by
  simp only [Compact.toText, Compact.message, String.toList_ofList, List.mem_append,
    List.mem_cons, header_issued, payload_issued, signature_issued] at h
  rcases h with (h | rfl | h) | rfl | h
  · exact Base64.isVisible_of_mem_encode h
  · decide
  · exact Base64.isVisible_of_mem_encode h
  · decide
  · exact Base64.isVisible_of_mem_encode h

/-- A token has dots at least. -/
theorem toText_issued_ne_empty (signature : List UInt8) : (a.issued c signature).toText ≠ "" := by
  intro h
  have hnil := congrArg String.toList h
  simp [Compact.toText] at hnil

/-- If a token is issued for some claims, one is issued for them with every random number. -/
theorem exists_createIdentity (h : a.createIdentity random c = .ok token) (random' : Nat) :
    ∃ token', a.createIdentity random' c = .ok token' := by
  obtain ⟨pair, key, signature, hpair, hkey, -, -⟩ := createIdentity_eq_ok_iff.mp h
  exact (exists_createIdentity_iff hpair hkey).mpr
    ((exists_createIdentity_iff hpair hkey).mp ⟨token, h⟩)

/-- An issued token can be sent, in place of all other credentials of its carrier, and is received
on the other side. -/
theorem exists_withToken_issued {ctx : Context} {carrier : Carrier} {h : Headers}
    (hissue : a.createIdentity random c = .ok token) (hout : ctx.outbound? carrier = some h) :
    ∃ d v, ctx.withToken bearerScheme token carrier = .ok d ∧
      v.bytes = Text.toBytes (bearerScheme ++ " " ++ token) ∧
      d.outbound? carrier = some (h.set authorizationHeader v) ∧
      d.forward.token bearerScheme carrier = .ok token := by
  obtain ⟨pair, key, signature, -, -, -, rfl⟩ := createIdentity_eq_ok_iff.mp hissue
  refine Context.exists_withToken hout (fun x hx ↦ ?_) (by decide) (toText_issued_ne_empty _)
  rw [String.toList_append, List.mem_append] at hx
  rcases hx with hx | hx
  · exact HeaderValue.all_isReadable_toBytes_iff.mp (by decide) x hx
  · exact isVisible_of_mem_issued hx

end JwtAuthenticator

/-! ## Senders and receivers -/

/-- A guard lets in whom the backend knows by the request, and refuses others for its reason. -/
theorem Authenticator.guard_eq (a : Authenticator) (now : Instant) (next : Handler) (r : Request) :
    a.guard now next r =
      match a.authenticate now { server := some r.transport } .transport with
      | .ok c => next { r with claims := some c }
      | .error e => .refusal e := by
  rw [guard, identifyCaller]
  cases a.authenticate now { server := some r.transport } .transport <;> rfl

/-- Every backend but the one that does nothing writes the token that it issues. -/
theorem Authenticator.createIdentityWithContext_of_ne_noop {a : Authenticator} (h : a ≠ .noop)
    (random : Nat) (ctx : Context) (carrier : Carrier) (claims : Claims) :
    a.createIdentityWithContext random ctx carrier claims =
      (a.createIdentity random claims).bind (ctx.withToken bearerScheme · carrier) := by
  rw [createIdentityWithContext]
  · rfl
  · exact h

namespace JwtAuthenticator

variable {a : JwtAuthenticator} {random : Nat} {c : Claims} {token : String}

/-- The token that comes in is the one that is looked at. -/
theorem authenticate_of_token {ctx : Context} {carrier : Carrier}
    (h : ctx.token bearerScheme carrier = .ok token) (now : Instant) :
    (Authenticator.jwt a).authenticate now ctx carrier = a.authenticateToken now token := by
  rw [Authenticator.authenticate, h]
  · rfl
  · nofun

/-- The context with a new token is the context with the token that is issued. -/
theorem createIdentityWithContext_of_createIdentity (h : a.createIdentity random c = .ok token)
    (ctx : Context) (carrier : Carrier) :
    (Authenticator.jwt a).createIdentityWithContext random ctx carrier c =
      ctx.withToken bearerScheme token carrier := by
  have hissue : (Authenticator.jwt a).createIdentity random c = .ok token := h
  have hactive : Authenticator.jwt a ≠ .noop := nofun
  rw [Authenticator.createIdentityWithContext_of_ne_noop hactive, hissue, Except.bind]

/-- A client puts an issued token into the request, where the guard on the other side finds it. -/
theorem token_authorizeRequest (h : a.createIdentity random c = .ok token) (r : Request) :
    Context.token { server := some (Client.authorizeRequest ⟨.jwt a, c⟩ random r).transport }
      bearerScheme .transport = .ok token := by
  have hrequest : Context.outbound? { client := some r.transport } .transport =
      some r.headers := rfl
  obtain ⟨d, v, hsend, -, hout, htoken⟩ := exists_withToken_issued h hrequest
  have hauthorize : Client.authorize ⟨.jwt a, c⟩ random { client := some r.transport } = d := by
    rw [Client.authorize, createIdentityWithContext_of_createIdentity h, hsend]
  rw [← htoken]
  refine Context.token_congr ?_ bearerScheme
  rw [Context.inbound?_forward, hout, Client.authorizeRequest, hauthorize]
  cases hclient : d.client with
  | none => simp [Context.outbound?, hclient] at hout
  | some t =>
    simpa [Context.outbound?, Context.inbound?, Request.transport, hclient] using hout

/-- A token that can be issued arrives.  Sent by either carrier, whatever credentials were there
before, it is answered as it is by itself; and behind a client and a guard the page that tells
callers who they are tells the claims in the token, or the guard tells why it was refused. -/
theorem arrives_of_createIdentity (h : a.createIdentity random c = .ok token) (random' : Nat) :
    ∃ t, a.createIdentity random' c = .ok t ∧
      (∀ ctx carrier, (carrier = .transport → ctx.client ≠ none) →
        ∃ d headers v, (Authenticator.jwt a).createIdentityWithContext random' ctx carrier c =
            .ok d ∧
          d.outbound? carrier = some headers ∧ headers.values authorizationHeader = [v] ∧
          v.bytes = Text.toBytes ("Bearer " ++ t) ∧
          ∀ now, (Authenticator.jwt a).authenticate now d.forward carrier =
            a.authenticateToken now t) ∧
      ∀ r now, (Authenticator.jwt a).guard now whoAmI
          (Client.authorizeRequest ⟨.jwt a, c⟩ random' r) =
        match a.authenticateToken now t with
        | .ok d => .json 200 (.ofDict d.toPayload)
        | .error e => .json 401 (.object [("code", .ofInt e.code), ("message", .string e.message),
            ("reason", .string e.reason)]) := by
  obtain ⟨t, ht⟩ := exists_createIdentity h random'
  refine ⟨t, ht, fun ctx carrier hcarrier ↦ ?_, fun r now ↦ ?_⟩
  · obtain ⟨headers, hout⟩ : ∃ headers, ctx.outbound? carrier = some headers := by
      cases carrier with
      | grpc => exact ⟨_, rfl⟩
      | transport =>
        obtain ⟨client, hclient⟩ := Option.ne_none_iff_exists'.mp (hcarrier rfl)
        exact ⟨client.request, by rw [Context.outbound?, hclient, Option.map_some]⟩
    obtain ⟨d, v, hsend, hbytes, hset, htoken⟩ := exists_withToken_issued ht hout
    refine ⟨d, _, v, ?_, hset, Headers.values_set_self _ _ _, hbytes, fun now ↦ ?_⟩
    · rw [createIdentityWithContext_of_createIdentity ht, hsend]
    · exact authenticate_of_token htoken now
  · rw [Authenticator.guard_eq, authenticate_of_token (token_authorizeRequest ht r)]
    cases a.authenticateToken now t <;> rfl

/-- Claims with a subject. -/
def subjectOnly : Claims := Claims.empty.withSubject "ann"

/-- The token that is issued for them. -/
def subjectToken : String :=
  "eyJ0eXAiOiJKV1QiLCJhbGciOiJIUzI1NiJ9.eyJzdWIiOiJhbm4ifQ" ++
    ".RyoEu4So1cgJzgP3AksmQFLi5VGUpiTfCYUFLGHyroc"

/-- A request with two credentials, one of which is no text that can be read. -/
def stale : Request where
  path := "/whoami"
  headers := (Headers.empty.append "Authorization" ⟨Text.toBytes "Bearer ü", by decide⟩).append
    "authorization"
    ⟨Text.toBytes "Basic eA==", by decide⟩

/-- The token takes the place of both, and the caller is told the subject. -/
theorem arrives_of_createIdentity_stale :
    (ofSecret .hs256 [107]).createIdentity 0 subjectOnly = .ok subjectToken ∧
      (∃ d, (Authenticator.jwt (ofSecret .hs256 [107])).createIdentityWithContext 0
          { client := some stale.transport } .transport subjectOnly = .ok d ∧
        (Authenticator.jwt (ofSecret .hs256 [107])).authenticate .epoch d.forward .transport =
          .ok subjectOnly) ∧
      (Authenticator.jwt (ofSecret .hs256 [107])).guard .epoch whoAmI
          (Client.authorizeRequest ⟨.jwt (ofSecret .hs256 [107]), subjectOnly⟩ 0 stale) =
        .json 200 (.ofDict subjectOnly.toPayload) := by
  have hissue : (ofSecret .hs256 [107]).createIdentity 0 subjectOnly = .ok subjectToken := by
    decide +kernel
  have hanswer : (ofSecret .hs256 [107]).authenticateToken .epoch subjectToken =
      .ok subjectOnly := by decide +kernel
  obtain ⟨t, ht, hcontext, hguard⟩ := arrives_of_createIdentity hissue 0
  obtain rfl : t = subjectToken := Except.ok.inj (ht.symm.trans hissue)
  refine ⟨hissue, ?_, by rw [hguard, hanswer]⟩
  obtain ⟨d, -, -, hd, -, -, -, hforward⟩ :=
    hcontext { client := some stale.transport } .transport (fun _ ↦ nofun)
  exact ⟨d, hd, (hforward .epoch).trans hanswer⟩

end JwtAuthenticator

end BearerAuth
