import BearerAuth.Proofs.Delivery

/-!
# Entry points

A service lets callers in at three places: it asks the backend who the caller of a context is, it
has the answer attached to the context, or it puts a guard in front of a handler.  All three look
for the caller in the headers of one request, and there at nothing but the text of the first
credential (`Authenticator.authenticate_congr`); so they cannot disagree.
-/

namespace BearerAuth

open Service (Handler Reply Request whoAmI)

namespace Context

variable {c d : Context} {carrier carrier' : Carrier}

/-- The token is looked for in the first credential, and nowhere else. -/
theorem token_congr_credential (h : c.credential? carrier = d.credential? carrier')
    (scheme : String) : c.token scheme carrier = d.token scheme carrier' := by
  rw [token, token, h]

/-- By a transport, the first credential is the first value of its header in the request. -/
theorem credential?_transport {t : Transport} (h : c.server = some t) :
    c.credential? .transport = (t.request.get? authorizationHeader).bind HeaderValue.read? := by
  rw [credential?, inbound?, h]
  rfl

end Context

namespace Authenticator

variable (a : Authenticator) (now : Instant)

/-- Callers with the same first credential are answered alike. -/
theorem authenticate_congr {c d : Context} {carrier carrier' : Carrier}
    (h : c.credential? carrier = d.credential? carrier') :
    a.authenticate now c carrier = a.authenticate now d carrier' := by
  have htoken := Context.token_congr_credential h bearerScheme
  cases a with
  | noop => rfl
  | jwt a => simp only [authenticate, htoken]
  | preSharedKeys keys => simp only [authenticate, htoken]
  | oidc a => simp only [authenticate, htoken]

/-- The claims of the caller are attached in place of any others, and nothing else changes. -/
theorem identifyCaller_eq (ctx : Context) :
    a.identifyCaller now ctx =
      match a.authenticate now ctx .transport with
      | .ok c => .ok { ctx with claims := some c }
      | .error e => .error e := by
  rw [identifyCaller]
  cases a.authenticate now ctx .transport <;> rfl

/-- What the backend answers for a transport decides everywhere.  If it knows the caller, these
claims are attached and nothing else changes, and the handler behind a guard gets the request with
these claims; otherwise its error is the answer, and no handler has a part in it.  And it answers
alike wherever the first credential of the request reads the same, so also if it is the same bytes,
and if it is missing. -/
theorem decides_alike :
    (∀ (ctx : Context) (t : Transport) (r : Request) (next : Handler),
      ctx.server = some t → r.headers = t.request →
        (∀ c, a.authenticate now ctx .transport = .ok c →
          a.identifyCaller now ctx = .ok { ctx with claims := some c } ∧
            a.guard now next r = next { r with claims := some c }) ∧
        ∀ e, a.authenticate now ctx .transport = .error e →
          a.identifyCaller now ctx = .error e ∧
            a.guard now next r = .json 401 (.object [("code", .ofInt e.code),
              ("message", .string e.message), ("reason", .string e.reason)])) ∧
    ∀ (c d : Context) (s t : Transport), c.server = some s → d.server = some t →
      (s.request.get? authorizationHeader).bind HeaderValue.read? =
        (t.request.get? authorizationHeader).bind HeaderValue.read? →
      a.authenticate now c .transport = a.authenticate now d .transport := by
  refine ⟨fun ctx t r next hserver hheaders ↦ ?_, fun c d s t hc hd h ↦ ?_⟩
  · have hrequest : a.authenticate now { server := some r.transport } .transport =
        a.authenticate now ctx .transport := by
      apply authenticate_congr
      rw [Context.credential?_transport hserver, ← hheaders]
      rfl
    rw [identifyCaller_eq, guard_eq, hrequest]
    constructor
    · intro c hc
      rw [hc]
      exact ⟨rfl, rfl⟩
    · intro e he
      rw [he]
      exact ⟨rfl, rfl⟩
  · apply authenticate_congr
    rw [Context.credential?_transport hc, Context.credential?_transport hd, h]

/-- A credential with a letter that is not in UTF-8. -/
def foreign : HeaderValue := ⟨Text.toBytes "Bearer " ++ [0xe9], by decide⟩

/-- A request with a good credential, and behind it with one that is no text and with the claims of
someone else. -/
def crowded : Request where
  path := "/whoami"
  headers := (Headers.empty.append "authorization"
    ⟨Text.toBytes ("bearer " ++ shortLived), by decide +kernel⟩).append "Authorization" foreign
  claims := some (Claims.empty.withSubject "eve")

/-- A context with the transport of the request, with the same headers as other metadata, and with
the claims of someone else. -/
def crowdedContext : Context where
  incoming := crowded.headers
  server := some crowded.transport
  claims := crowded.claims

/-- The good credential decides, in the context and before a handler.  A first credential that is no
text is as good as none. -/
theorem decides_alike_crowded :
    (jwt (.ofSecret .hs256 [107])).identifyCaller .epoch crowdedContext =
        .ok { crowdedContext with claims := some shortLivedClaims } ∧
      (jwt (.ofSecret .hs256 [107])).guard .epoch whoAmI crowded =
        .json 200 (.ofDict shortLivedClaims.toPayload) ∧
      ∀ d : Context, d.server = some { } →
        (jwt (.ofSecret .hs256 [107])).authenticate .epoch d .transport =
          (jwt (.ofSecret .hs256 [107])).authenticate .epoch
            { server := some { request := Headers.empty.append "authorization" foreign } }
            .transport := by
  have htoken : crowdedContext.token bearerScheme .transport = .ok shortLived := by decide +kernel
  have hanswer : (jwt (.ofSecret .hs256 [107])).authenticate .epoch crowdedContext .transport =
      .ok shortLivedClaims :=
    (JwtAuthenticator.authenticate_of_token htoken .epoch).trans authenticateToken_shortLived
  obtain ⟨hentries, hsame⟩ := decides_alike (jwt (.ofSecret .hs256 [107])) .epoch
  obtain ⟨hcontext, hhandler⟩ :=
    (hentries crowdedContext crowded.transport crowded whoAmI rfl rfl).1 _ hanswer
  exact ⟨hcontext, hhandler, fun d hd ↦ hsame d _ _ _ hd rfl (by decide)⟩

end Authenticator

end BearerAuth
