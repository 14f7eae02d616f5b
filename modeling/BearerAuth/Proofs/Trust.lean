import BearerAuth.Proofs.Claims.Payload
import BearerAuth.Proofs.Token.Policy
import Mathlib.Control.Monad.Basic

/-!
# Trust before claims

A token is a text that anyone can send.  What it says of its caller counts only when it declares the
algorithm that the backend is set up for, a key is found for its header, and its signature verifies;
until then no answer depends on the payload, and a token of another algorithm is refused before
anything else is looked at.
-/

namespace BearerAuth

open Token (Algorithm Compact Header Payload.ofSegment Policy)

/-! ## Backends with a policy -/

namespace Authenticator

/-- What a backend insists on, if it verifies signatures. -/
def policy? : Authenticator → Option Policy
  | noop | preSharedKeys _ => none
  | jwt a => some a.policy
  | oidc a => some a.policy

variable {a : Authenticator} {p : Policy}

/-- A backend that verifies signatures accepts tokens by its policy.  It may refuse more tokens than
its policy does, but never changes the claims. -/
theorem authenticateToken_eq_bind (h : a.policy? = some p) :
    ∃ check : Claims → Except AuthError Claims, (∀ c d, check c = .ok d → d = c) ∧
      ∀ now token, a.authenticateToken now token = p.authenticate now token >>= check := by
  cases a with
  | noop => cases h
  | preSharedKeys keys => cases h
  | jwt a =>
    cases h
    refine ⟨.ok, fun c d hd ↦ by cases hd; rfl, fun now token ↦ ?_⟩
    exact (a.authenticateToken_eq now token).trans (bind_pure _).symm
  | oidc a =>
    cases h
    refine ⟨a.checkParties, fun c d hd ↦ ?_, a.authenticateToken_eq⟩
    rw [OidcAuthenticator.checkParties] at hd
    repeat' split at hd
    all_goals cases hd
    rfl

/-- What the policy refuses, the backend refuses for the same reason. -/
theorem authenticateToken_eq_error (h : a.policy? = some p) {now : Instant} {token : String}
    {e : AuthError} (he : p.authenticate now token = .error e) :
    a.authenticateToken now token = .error e := by
  obtain ⟨check, -, hcheck⟩ := authenticateToken_eq_bind h
  rw [hcheck, he]
  rfl

/-- What the backend accepts, the policy accepts with the same claims. -/
theorem authenticate_of_authenticateToken (h : a.policy? = some p) {now : Instant} {token : String}
    {c : Claims} (hc : a.authenticateToken now token = .ok c) :
    p.authenticate now token = .ok c := by
  obtain ⟨check, hsame, hcheck⟩ := authenticateToken_eq_bind h
  rw [hcheck] at hc
  obtain ⟨d, hd, hd'⟩ := Except.bind_eq_ok_iff.mp hc
  rw [hd, hsame d c hd']

end Authenticator

/-- The authenticator that verifies every token with one secret. -/
def JwtAuthenticator.ofSecret (algorithm : Algorithm) (secret : List UInt8) :
    JwtAuthenticator :=
  ⟨algorithm, some fun _ ↦ some (.ofSecret secret), none, .exact⟩

/-! ## What is accepted -/

namespace Token

/-- The object that the payload segment of a token stands for. -/
def Compact.object? (segments : Compact) : Option (Dict Json) := do
  let bytes ← Base64.decode? .url segments.payload
  let text ← Text.ofBytes? bytes
  let source ← Json.Source.ofText? text
  source.toDict?

/-- A payload that is read is the object of its segment. -/
theorem Payload.object?_of_ofSegment {segments : Compact} {payload : Dict Json}
    (h : Payload.ofSegment segments.payload = .ok payload) : segments.object? = some payload := by
  rw [Payload.ofSegment] at h
  split at h
  · cases h
  · next bytes hbytes =>
    split at h
    · next found hfound =>
      cases h
      obtain ⟨source, hsource, hread⟩ := Option.bind_eq_some_iff.mp hfound
      obtain ⟨text, htext, hjson⟩ := Option.bind_eq_some_iff.mp hsource
      have hdict : source.toDict? = some payload := by
        rw [Payload.ofSource?.eq_def] at hread
        split at hread
        · split at hread
          · exact hread
          · cases hread
        · cases hread
      simp [Compact.object?, hbytes, htext, hjson, hdict]
    · cases h

/-- Whether a member of a payload, if there is one, is a number that stands for an instant with some
property. -/
def Keeps (payload : Dict Json) (claim : RegisteredClaim) (holds : Instant → Bool) : Prop :=
  ∀ v, payload.get? claim.name = some v →
    ∃ n t, v = .number n ∧ Instant.ofNumericDate? n.toBinary64 = some t ∧ holds t = true

/-- The claims that are admitted are those of a payload whose bounds are dates that hold now. -/
theorem Policy.payload_of_accept {p : Policy} {now : Instant} {segments : Compact} {c : Claims}
    (h : p.accept now segments.payload = .ok c) :
    ∃ payload, segments.object? = some payload ∧ Claims.ofPayload payload = .ok c ∧
      Keeps payload .expirationTime (p.window.beforeEnd now) ∧
      Keeps payload .notBefore (p.window.afterStart now) := by
  obtain ⟨payload, hpayload, h⟩ := Except.bind_eq_ok_iff.mp h
  obtain ⟨d, hd, h⟩ := Except.bind_eq_ok_iff.mp h
  have hsegment : Payload.ofSegment segments.payload = .ok payload :=
    Except.mapError_eq_ok_iff.mp hpayload
  rw [Window.check] at h
  split at h
  · next hadmits =>
    cases h
    rw [Window.admits, Bool.and_eq_true] at hadmits
    refine ⟨payload, Payload.object?_of_ofSegment hsegment, hd, fun v hv ↦ ?_, fun v hv ↦ ?_⟩
    · obtain ⟨n, t, hn, ht, hdate⟩ := Claims.exists_instant_of_ofPayload hd (by decide) hv
      refine ⟨n, t, hn, ht, ?_⟩
      simpa [Claims.expirationTime, hdate, Claims.found] using hadmits.1
    · obtain ⟨n, t, hn, ht, hdate⟩ := Claims.exists_instant_of_ofPayload hd (by decide) hv
      refine ⟨n, t, hn, ht, ?_⟩
      simpa [Claims.notBefore, hdate, Claims.found] using hadmits.2
  · cases h

end Token

namespace Authenticator

variable {a b : Authenticator} {p q : Policy}

/-- Only a token that can be trusted is answered with claims, or with an error about claims.  If it
is answered with claims, they are those of the object in its payload segment, and an end or a
beginning that the object sets is a date which has not come or has come. -/
theorem trusts_of_answer (h : a.policy? = some p) (now : Instant) (token : String) :
    (∀ e : AuthError, e.OfClaims → a.authenticateToken now token = .error e →
      ∃ segments, Compact.ofText? token = some segments ∧ p.Trusts segments) ∧
    (∀ c, a.authenticateToken now token = .ok c →
      ∃ segments payload, Compact.ofText? token = some segments ∧ p.Trusts segments ∧
        segments.object? = some payload ∧ Claims.ofPayload payload = .ok c ∧
        Token.Keeps payload .expirationTime (p.window.beforeEnd now) ∧
        Token.Keeps payload .notBefore (p.window.afterStart now)) := by
  rcases p.trusts_or_error now token with ⟨segments, hsegments, htrusts⟩ | ⟨e, he, hclaims⟩
  · refine ⟨fun _ _ _ ↦ ⟨segments, hsegments, htrusts⟩, fun c hc ↦ ?_⟩
    have haccept : p.accept now segments.payload = .ok c := by
      rw [← Policy.authenticate_of_trusts hsegments htrusts]
      exact authenticate_of_authenticateToken h hc
    obtain ⟨payload, hpayload⟩ := Policy.payload_of_accept haccept
    exact ⟨segments, payload, hsegments, htrusts, hpayload⟩
  · have hanswer := authenticateToken_eq_error h he
    constructor
    · intro e' hclaims' he'
      rw [hanswer] at he'
      cases he'
      exact absurd hclaims' hclaims
    · intro c hc
      rw [hanswer] at hc
      cases hc

/-- A token that expires one second after the start of 1970. -/
def shortLived : String :=
  "eyJ0eXAiOiJKV1QiLCJhbGciOiJIUzI1NiJ9.eyJleHAiOjF9.J4_nQgAiNghrkJ1iUj8NJVnWX_PTJ0gO_ogsl-swchI"

/-- The claims of the token: when it expires, and nothing else. -/
def shortLivedClaims : Claims := ⟨.ofList [("exp", .number (.ofInt 1))], .empty⟩

theorem authenticateToken_shortLived :
    (jwt (.ofSecret .hs256 [107])).authenticateToken .epoch shortLived = .ok shortLivedClaims := by
  decide +kernel

/-- A key of the Edwards curve. -/
def edwardsKey : List UInt8 :=
  [215, 90, 152, 1, 130, 177, 10, 183, 213, 75, 254, 211, 201, 100, 7, 58,
    14, 225, 114, 243, 218, 166, 35, 37, 175, 2, 26, 104, 247, 7, 81, 26]

/-- The backend that accepts the tokens of the key, and issues none. -/
def edwards : Authenticator :=
  jwt ⟨.eddsa, some fun _ ↦ some (.verifyOnly (.ed edwardsKey)), none, .exact⟩

/-- A token with the same claims under the key. -/
def shortLivedEdwards : String :=
  "eyJhbGciOiJFZERTQSJ9.eyJleHAiOjF9." ++
    "FPV__C-byowfHZb-RtI84IJzotwpz24oKdNDzHBPLawxGUqlKwk5cXIoelRL7vB-07x95Fk954M8pNNFZsfbBg"

theorem edwards_authenticateToken_shortLivedEdwards :
    edwards.authenticateToken .epoch shortLivedEdwards = .ok shortLivedClaims := by
  decide +kernel

/-- The short-lived tokens, of a secret and of an Edwards curve, are answered with their claims at
first; and once the first has expired, it is answered with an error about claims, which shows as
well that it can be trusted. -/
theorem trusts_of_answer_shortLived :
    ∃ p q, (jwt (.ofSecret .hs256 [107])).policy? = some p ∧ edwards.policy? = some q ∧
      (∃ segments payload, Compact.ofText? shortLived = some segments ∧ p.Trusts segments ∧
        segments.object? = some payload ∧ Claims.ofPayload payload = .ok shortLivedClaims ∧
        Token.Keeps payload .expirationTime (p.window.beforeEnd .epoch) ∧
        Token.Keeps payload .notBefore (p.window.afterStart .epoch)) ∧
      (∃ segments payload, Compact.ofText? shortLivedEdwards = some segments ∧ q.Trusts segments ∧
        segments.object? = some payload ∧ Claims.ofPayload payload = .ok shortLivedClaims ∧
        Token.Keeps payload .expirationTime (q.window.beforeEnd .epoch) ∧
        Token.Keeps payload .notBefore (q.window.afterStart .epoch)) ∧
      ∃ segments, Compact.ofText? shortLived = some segments ∧ p.Trusts segments := by
  have hpolicy : (jwt (.ofSecret .hs256 [107])).policy? =
      some (JwtAuthenticator.ofSecret .hs256 [107]).policy := rfl
  have hedwards : edwards.policy? = some _ := rfl
  have hexpired := (trusts_of_answer hpolicy ⟨1, 0, by decide, by decide, by decide⟩ shortLived).1
  refine ⟨_, _, hpolicy, hedwards, (trusts_of_answer hpolicy .epoch shortLived).2 _ ?_,
    (trusts_of_answer hedwards .epoch shortLivedEdwards).2 _ ?_, ?_⟩
  · exact authenticateToken_shortLived
  · exact edwards_authenticateToken_shortLivedEdwards
  · exact hexpired .tokenExpired trivial (by decide +kernel)

end Authenticator

/-! ## Tokens of another algorithm -/

/-- Whether a token has a header that declares an algorithm. -/
def Token.Declares (token : String) (algorithm : Algorithm) : Prop :=
  ∃ segments header, Compact.ofText? token = some segments ∧
    Header.ofSegment? segments.header = some header ∧ header.algorithm = algorithm

/-- A token that a policy accepts declares the algorithm of the policy. -/
theorem Token.Policy.declares_of_authenticate {p : Policy} {now : Instant} {token : String}
    {c : Claims} (h : p.authenticate now token = .ok c) : Declares token p.algorithm := by
  obtain ⟨segments, hsegments, ⟨header, -, hheader, halgorithm, -⟩, -⟩ :=
    Policy.accept_of_authenticate h
  exact ⟨segments, header, hsegments, hheader, halgorithm⟩

/-- The algorithm that a token declares is unique. -/
theorem Token.Declares.unique {token : String} {algorithm algorithm' : Algorithm}
    (h : Declares token algorithm) (h' : Declares token algorithm') : algorithm = algorithm' := by
  obtain ⟨segments, header, hsegments, hheader, rfl⟩ := h
  obtain ⟨segments', header', hsegments', hheader', rfl⟩ := h'
  obtain rfl : segments = segments' := Option.some.inj (hsegments.symm.trans hsegments')
  obtain rfl : header = header' := Option.some.inj (hheader.symm.trans hheader')
  rfl

namespace Authenticator

variable {a b : Authenticator} {p q : Policy}

/-- A token of another algorithm is refused for its algorithm. -/
theorem authenticateToken_of_declares (h : a.policy? = some p) {token : String}
    {algorithm : Algorithm} (hdeclares : Token.Declares token algorithm)
    (hne : algorithm ≠ p.algorithm) (now : Instant) :
    a.authenticateToken now token = .error .unsupportedSigningMethod := by
  obtain ⟨segments, header, hsegments, hheader, rfl⟩ := hdeclares
  exact authenticateToken_eq_error h (Policy.authenticate_of_algorithm_ne hsegments hheader hne)

/-- A token of another algorithm is refused for just that, with whatever keys, at whatever time, and
whatever is in its other segments; and so no token is accepted under two algorithms. -/
theorem unsupportedSigningMethod_of_declares (ha : a.policy? = some p) (hb : b.policy? = some q) :
    (∀ token algorithm, Token.Declares token algorithm → algorithm ≠ p.algorithm →
      ∀ now, a.authenticateToken now token = .error .unsupportedSigningMethod) ∧
    (∀ s t algorithm, Token.Declares s algorithm → Token.Declares t algorithm →
      algorithm ≠ p.algorithm → algorithm ≠ q.algorithm →
      ∀ now now', a.authenticateToken now s = b.authenticateToken now' t) ∧
    (p.algorithm ≠ q.algorithm → ∀ token now now' c d, a.authenticateToken now token = .ok c →
      b.authenticateToken now' token ≠ .ok d) := by
  refine ⟨?_, ?_, ?_⟩
  · intro token algorithm h hne now
    exact authenticateToken_of_declares ha h hne now
  · intro s t algorithm hs ht hp hq now now'
    exact (authenticateToken_of_declares ha hs hp now).trans
      (authenticateToken_of_declares hb ht hq now').symm
  · intro hne token now now' c d hc hd
    have hp := Policy.declares_of_authenticate (authenticate_of_authenticateToken ha hc)
    have hq := Policy.declares_of_authenticate (authenticate_of_authenticateToken hb hd)
    exact hne (hp.unique hq)

/-- With one and the same secret, a token that is accepted under one hash is refused under another,
like every token that declares the first. -/
theorem unsupportedSigningMethod_of_declares_shortLived :
    (∃ c, (jwt (.ofSecret .hs256 [107])).authenticateToken .epoch shortLived = .ok c) ∧
      (jwt (.ofSecret .hs384 [107])).authenticateToken .epoch shortLived =
        .error .unsupportedSigningMethod ∧
      ∀ token now now' c d,
        (jwt (.ofSecret .hs384 [107])).authenticateToken now token = .ok c →
          (jwt (.ofSecret .hs256 [107])).authenticateToken now' token ≠ .ok d := by
  have hgate := unsupportedSigningMethod_of_declares (a := jwt (.ofSecret .hs384 [107]))
    (b := jwt (.ofSecret .hs256 [107])) rfl rfl
  obtain ⟨hrefused, -, hapart⟩ := hgate
  have hdeclares : Token.Declares shortLived .hs256 :=
    Policy.declares_of_authenticate
      (authenticate_of_authenticateToken rfl authenticateToken_shortLived)
  refine ⟨⟨_, authenticateToken_shortLived⟩, ?_, hapart (by decide)⟩
  exact hrefused _ _ hdeclares (by decide) _

end Authenticator

end BearerAuth
