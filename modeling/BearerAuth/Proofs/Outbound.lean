import BearerAuth.Proofs.Context.Hop
import BearerAuth.Proofs.Delivery

/-!
# Requests that go out

A client takes the headers out of a request, has a credential put among them, and puts them back.
Two steps may fail on the way, issuing a token and writing it, and then the headers have to be the
old ones, all of them.

What happens is decided by the client alone, before any header is looked at: it has a token to send
(`Client.Issues`), or it has none (`Client.Passive`), and never both.  So there is one function of
headers that says what the client does to every context and to every request
(`Client.authorize_exact`).
-/

namespace BearerAuth

open Service (Request)

/-! ## Headers -/

namespace Context

/-- The context with other headers in the transport that requests go by, if there is one. -/
def mapHeaders (ctx : Context) (effect : Headers → Headers) : Context :=
  { ctx with client := ctx.client.map fun t ↦ { t with request := effect t.request } }

/-- The same headers make the same context. -/
theorem mapHeaders_id (ctx : Context) : ctx.mapHeaders id = ctx := by
  rw [mapHeaders]
  exact congrArg (fun client ↦ { ctx with client }) (congrFun Option.map_id ctx.client)

/-- A credential goes among the headers of the transport. -/
theorem withCredential_transport (ctx : Context) (v : HeaderValue) :
    ctx.withCredential .transport v = ctx.mapHeaders (·.set authorizationHeader v) := rfl

end Context

namespace Client

variable {c : Client} {random : Nat} {token : String}

/-! ## What a client has to send -/

/-- Whether a client has a token to send. -/
structure Issues (c : Client) (random : Nat) (token : String) : Prop where
  /-- The backend is not the one that does nothing. -/
  active : c.authenticator ≠ .noop
  /-- The backend issues the token. -/
  issued : c.authenticator.createIdentity random c.claims = .ok token
  /-- The token can be sent. -/
  sendable : ∀ x ∈ token.toList, ¬HeaderValue.IsControl x

/-- Why a client may have no token to send. -/
inductive Passive (c : Client) (random : Nat) : Prop
  /-- The backend does nothing. -/
  | noop : c.authenticator = .noop → Passive c random
  /-- Issuing fails. -/
  | unissued {e : AuthError} : c.authenticator.createIdentity random c.claims = .error e →
    Passive c random
  /-- The token that is issued cannot be sent. -/
  | unsendable {token : String} {x : Char} :
    c.authenticator.createIdentity random c.claims = .ok token → x ∈ token.toList →
    HeaderValue.IsControl x → Passive c random

/-- A client that is passive has no token to send. -/
theorem Passive.not_issues (h : c.Passive random) : ¬c.Issues random token := by
  intro hissues
  cases h with
  | noop hnoop => exact hissues.active hnoop
  | unissued herror => cases hissues.issued.symm.trans herror
  | unsendable hok hx hcontrol =>
    cases hissues.issued.symm.trans hok
    exact hissues.sendable _ hx hcontrol

/-- A client that is not passive has a token to send. -/
theorem passive_or_issues (c : Client) (random : Nat) :
    c.Passive random ∨ ∃ token, c.Issues random token := by
  by_cases hnoop : c.authenticator = .noop
  · exact .inl (.noop hnoop)
  · cases hissue : c.authenticator.createIdentity random c.claims with
    | error e => exact .inl (.unissued hissue)
    | ok token =>
      by_cases hcontrol : ∃ x ∈ token.toList, HeaderValue.IsControl x
      · obtain ⟨x, hx, hcontrol⟩ := hcontrol
        exact .inl (.unsendable hissue hx hcontrol)
      · exact .inr ⟨token, hnoop, hissue, fun x hx h ↦ hcontrol ⟨x, hx, h⟩⟩

/-- A client is passive just if it has no token to send. -/
theorem passive_iff_forall_not_issues : c.Passive random ↔ ∀ token, ¬c.Issues random token := by
  refine ⟨fun h token ↦ h.not_issues, fun h ↦ ?_⟩
  obtain hpassive | ⟨token, hissues⟩ := passive_or_issues c random
  · exact hpassive
  · exact absurd hissues (h token)

/-- The scheme can be sent, so it is up to the token whether the credential can. -/
theorem exists_isControl_iff :
    (∃ x ∈ bearerScheme.toList ++ token.toList, HeaderValue.IsControl x) ↔
      ∃ x ∈ token.toList, HeaderValue.IsControl x := by
  have hscheme : ∀ x ∈ bearerScheme.toList, ¬HeaderValue.IsControl x :=
    HeaderValue.all_isSendable_toBytes_iff.mp (by decide)
  simp only [List.mem_append, or_and_right, exists_or]
  refine or_iff_right ?_
  rintro ⟨x, hx, hcontrol⟩
  exact hscheme x hx hcontrol

/-! ## What it does -/

/-- A passive client changes nothing. -/
theorem Passive.authorize_eq (h : c.Passive random) (ctx : Context) :
    c.authorize random ctx = ctx := by
  by_cases hnoop : c.authenticator = .noop
  · rw [authorize, hnoop]
    rfl
  · rw [authorize, Authenticator.createIdentityWithContext_of_ne_noop hnoop]
    cases h with
    | noop h => exact absurd h hnoop
    | unissued herror => rw [herror]; rfl
    | @unsendable token x hok hx hcontrol =>
      have hfails : ctx.withToken bearerScheme token .transport = .error .invalidToken :=
        Context.withToken_eq_error_iff.mpr ⟨rfl, exists_isControl_iff.mpr ⟨x, hx, hcontrol⟩⟩
      rw [hok, Except.bind, hfails]

/-- A client that has a token to send puts it in place of all credentials. -/
theorem Issues.exists_authorize_eq (h : c.Issues random token) :
    ∃ v : HeaderValue, v.bytes = Text.toBytes (bearerScheme ++ " " ++ token) ∧
      ∀ ctx, c.authorize random ctx = ctx.mapHeaders (·.set authorizationHeader v) := by
  have hv : ∃ v, HeaderValue.of? (bearerScheme ++ " " ++ token) = some v := by
    rw [← Option.ne_none_iff_exists', ne_eq, HeaderValue.of?_eq_none_iff, exists_isControl_written,
      exists_isControl_iff]
    rintro ⟨x, hx, hcontrol⟩
    exact h.sendable x hx hcontrol
  obtain ⟨v, hv⟩ := hv
  have hbytes := HeaderValue.of?_eq_some_iff.mp hv
  refine ⟨v, hbytes, fun ctx ↦ ?_⟩
  have hsent : ctx.withToken bearerScheme token .transport =
      .ok (ctx.mapHeaders (·.set authorizationHeader v)) :=
    Context.withToken_eq_ok_iff.mpr ⟨v, hbytes, ctx.withCredential_transport v⟩
  rw [authorize, Authenticator.createIdentityWithContext_of_ne_noop h.active, h.issued, Except.bind,
    hsent]

/-- A client does to the headers of a request what it does to those of a context. -/
theorem authorizeRequest_eq {effect : Headers → Headers}
    (h : ∀ ctx, c.authorize random ctx = ctx.mapHeaders effect) (r : Request) :
    c.authorizeRequest random r = { r with headers := effect r.headers } := by
  rw [authorizeRequest, h]
  rfl

/-- What a client does to headers. -/
inductive Effect (c : Client) (random : Nat) (effect : Headers → Headers) : Prop
  /-- It leaves them as they are. -/
  | kept : c.Passive random → (∀ before, effect before = before) → Effect c random effect
  /-- It replaces all credentials by one with the token that is issued, and leaves all other headers
  as they are. -/
  | replaced {token : String} {v : HeaderValue} : c.Issues random token →
    v.bytes = Text.toBytes ("Bearer " ++ token) →
    (∀ before name, (effect before).values name =
      if lowerCase name = authorizationHeader then [v] else before.values name) →
    Effect c random effect

/-- Whatever a client is made of, there is one effect on headers that it has on the client transport
of every context and on every request, and nothing else changes.  Whether the headers are kept or
their credentials replaced is decided by the client and by chance, not by the headers. -/
theorem authorize_exact (c : Client) (random : Nat) :
    (c.Passive random ↔ ∀ token, ¬c.Issues random token) ∧
    ∃ effect : Headers → Headers, c.Effect random effect ∧
      (∀ ctx : Context, c.authorize random ctx =
        { ctx with client := ctx.client.map fun t ↦ { t with request := effect t.request } }) ∧
      ∀ r : Request, c.authorizeRequest random r = { r with headers := effect r.headers } := by
  refine ⟨passive_iff_forall_not_issues, ?_⟩
  obtain hpassive | ⟨token, hissues⟩ := passive_or_issues c random
  · have hctx : ∀ ctx, c.authorize random ctx = ctx.mapHeaders id := fun ctx ↦ by
      rw [hpassive.authorize_eq, Context.mapHeaders_id]
    exact ⟨id, .kept hpassive fun _ ↦ rfl, hctx, authorizeRequest_eq hctx⟩
  · obtain ⟨v, hbytes, hctx⟩ := hissues.exists_authorize_eq
    refine ⟨(·.set authorizationHeader v), .replaced hissues hbytes fun before name ↦ ?_, hctx,
      authorizeRequest_eq hctx⟩
    exact Headers.values_set before authorizationHeader name v

/-- A client with one pre-shared key. -/
def ofKey (key : String) : Client := ⟨.preSharedKeys (.ofList [key]), .empty⟩

/-- A key with a line break in it leaves a request with two credentials as it is; a good key
replaces both. -/
theorem authorize_exact_stale :
    (ofKey "a\nb").authorizeRequest 0 JwtAuthenticator.stale = JwtAuthenticator.stale ∧
      (((ofKey "k").authorizeRequest 0 JwtAuthenticator.stale).headers.values
        "Authorization").map HeaderValue.text? = [some "Bearer k"] := by
  have hbreak : '\n' ∈ "a\nb".toList := by decide
  have hbad : (ofKey "a\nb").Passive 0 := .unsendable (by decide) hbreak (by decide)
  have hgood : (ofKey "k").Issues 0 "k" :=
    ⟨nofun, by decide, HeaderValue.all_isSendable_toBytes_iff.mp (by decide)⟩
  constructor
  · obtain ⟨-, effect, heffect, -, hrequest⟩ := authorize_exact (ofKey "a\nb") 0
    cases heffect with
    | kept _ hkept => rw [hrequest, hkept]
    | replaced hissues => exact absurd hissues hbad.not_issues
  · obtain ⟨-, effect, heffect, -, hrequest⟩ := authorize_exact (ofKey "k") 0
    cases heffect with
    | kept hpassive => exact absurd hgood hpassive.not_issues
    | replaced hissues hbytes hvalues =>
      cases hissues.issued.symm.trans hgood.issued
      have hname : lowerCase "Authorization" = authorizationHeader := by decide
      rw [hrequest, hvalues, if_pos hname, List.map_singleton, HeaderValue.text?, hbytes,
        Text.ofBytes?_toBytes]
      rfl

/-! ## Who has something to send -/

/-- A relying party has nothing to send. -/
theorem passive_oidc (a : OidcAuthenticator) (claims : Claims) (random : Nat) :
    Passive ⟨.oidc a, claims⟩ random := .unissued rfl

/-- Every token that is signed can be sent. -/
theorem issues_jwt_iff {a : JwtAuthenticator} {claims : Claims} :
    Issues ⟨.jwt a, claims⟩ random token ↔ a.createIdentity random claims = .ok token := by
  refine ⟨Issues.issued, fun h ↦ ⟨nofun, h, fun x hx ↦ ?_⟩⟩
  obtain ⟨pair, key, signature, -, -, -, rfl⟩ := JwtAuthenticator.createIdentity_eq_ok_iff.mp h
  exact (JwtAuthenticator.isVisible_of_mem_issued hx).not_isControl

/-- Chance does not decide whether a client has a signed token to send. -/
theorem passive_jwt_congr {a : JwtAuthenticator} {claims : Claims} (random random' : Nat) :
    Passive ⟨.jwt a, claims⟩ random ↔ Passive ⟨.jwt a, claims⟩ random' := by
  suffices h : ∀ {random random' : Nat}, Passive ⟨.jwt a, claims⟩ random →
      Passive ⟨.jwt a, claims⟩ random' from ⟨h, h⟩
  intro random random' h
  simp only [passive_iff_forall_not_issues, issues_jwt_iff] at h ⊢
  intro token htoken
  obtain ⟨token', htoken'⟩ := JwtAuthenticator.exists_createIdentity htoken random
  exact h token' htoken'

end Client

end BearerAuth
