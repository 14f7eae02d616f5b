import BearerAuth.Authenticator

/-!
# Verification policies

The backends that verify signatures are written apart from each other, but all of them insist on
three things: an algorithm, a key for the header, and a window of time.  A `Token.Policy` is just
that.  Each of these backends does what its policy asks for
(`JwtAuthenticator.authenticateToken_eq`, `OidcAuthenticator.authenticateToken_eq`), so what a token
goes through is looked at once, here.
-/

namespace Except

universe u v w

variable {ε : Type u} {α : Type v} {β : Type v}

/-- A chain of two steps succeeds if both do. -/
theorem bind_eq_ok_iff {x : Except ε α} {f : α → Except ε β} {b : β} :
    (x >>= f) = .ok b ↔ ∃ a, x = .ok a ∧ f a = .ok b := by
  cases x with
  | error e => exact ⟨nofun, nofun⟩
  | ok a => exact ⟨fun h ↦ ⟨a, rfl, h⟩, fun ⟨_, ha, h⟩ ↦ by cases ha; exact h⟩

/-- Putting an error in other words does not make a success of it. -/
theorem mapError_eq_ok_iff {ε' : Type w} {x : Except ε α} {f : ε → ε'} {a : α} :
    x.mapError f = .ok a ↔ x = .ok a := by
  cases x with
  | error e => exact ⟨nofun, nofun⟩
  | ok b => exact ⟨fun h ↦ by cases h; rfl, fun h ↦ by cases h; rfl⟩

end Except

namespace BearerAuth

namespace Token

/-! ## The parts of a token -/

/-- The segments and the header of a token are read if the first segment is a header. -/
theorem readHeader_eq_ok_iff {token : String} {segments : Compact} {header : Header} :
    readHeader token = .ok (segments, header) ↔
      Compact.ofText? token = some segments ∧ Header.ofSegment? segments.header = some header := by
  rw [readHeader]
  cases Compact.ofText? token with
  | none => simp
  | some found =>
    cases hheader : Header.ofSegment? found.header with
    | none =>
      refine ⟨fun h ↦ ?_, fun ⟨hfound, h⟩ ↦ ?_⟩
      · simp [hheader] at h
      · cases hfound
        rw [hheader] at h
        cases h
    | some h => simp +contextual [hheader, eq_comm]

/-- Where no header is read, the token is malformed. -/
theorem readHeader_eq_error {token : String} {e : AuthError} (h : readHeader token = .error e) :
    e = .invalidToken := by
  rw [readHeader] at h
  split at h
  · cases h; rfl
  · split at h
    · cases h; rfl
    · cases h

end Token

/-! ## Rejections for what the claims say -/

/-- Whether an error is about the claims in a token. -/
def AuthError.OfClaims : AuthError → Prop
  | invalidClaims | invalidSubject | invalidIssuer | invalidAudience | invalidExpiration
  | invalidNotBefore | invalidIssuedAt | tokenExpired => True
  | _ => False

namespace Token

/-- Whether the signature of a token verifies. -/
def Compact.Verifies (segments : Compact) (algorithm : Algorithm) (key : VerifyingKey) : Prop :=
  ∃ signature, Base64.decode? .url segments.signature = some signature ∧
    Signature.verifies algorithm key segments.messageBytes signature = true

/-- Once the signature has been verified, the payload decides. -/
theorem verifiedPayload_of_verifies {segments : Compact} {algorithm : Algorithm}
    {key : VerifyingKey} (h : segments.Verifies algorithm key) :
    verifiedPayload segments algorithm key =
      (Payload.ofSegment segments.payload).mapError Fault.toAuthError := by
  obtain ⟨signature, hdecode, hverifies⟩ := h
  rw [Signature.verifies] at hverifies
  split at hverifies
  · next v hv =>
    rw [verifiedPayload, hv, hdecode]
    exact if_pos hverifies
  · cases hverifies

/-- No key is made ready with an error about the claims. -/
theorem Signature.verifier_eq_error {algorithm : Algorithm} {key : VerifyingKey} {fault : Fault}
    (h : Signature.verifier algorithm key = .error fault) : ¬fault.toAuthError.OfClaims := by
  unfold verifier at h
  split at h
  · cases h
    exact id
  · split at h
    · cases h
    · cases h
    · cases h
    · split at h
      · cases h
        exact id
      · split at h <;> cases h
        exact id
    · split at h <;> cases h
      exact id
    · cases h
      exact id

/-- Until the signature has been verified, there is no error about the claims. -/
theorem verifiedPayload_of_not_verifies {segments : Compact} {algorithm : Algorithm}
    {key : VerifyingKey} (h : ¬segments.Verifies algorithm key) :
    ∃ e, verifiedPayload segments algorithm key = .error e ∧ ¬e.OfClaims := by
  rw [verifiedPayload]
  cases hverifier : Signature.verifier algorithm key with
  | error fault => exact ⟨_, rfl, Signature.verifier_eq_error hverifier⟩
  | ok verifier =>
    cases hdecode : Base64.decode? .url segments.signature with
    | none => exact ⟨_, rfl, id⟩
    | some signature =>
      refine ⟨Fault.signature.toAuthError, if_neg fun haccepts ↦ h ⟨signature, hdecode, ?_⟩, id⟩
      rw [Signature.verifies, hverifier]
      exact haccepts

/-! ## Policies -/

/-- What a backend insists on when it accepts tokens. -/
@[ext]
structure Policy where
  /-- The algorithm of all tokens. -/
  algorithm : Algorithm
  /-- The verifying key that goes with a header. -/
  findKey : Header → Except AuthError VerifyingKey
  /-- Where there is no key, nothing but that is said. -/
  findKey_eq_error : ∀ header e, findKey header = .error e →
    e = .missingKeyResolver ∨ e = .keyNotFound
  /-- When claims hold. -/
  window : Window

namespace Policy

variable (p : Policy)

/-- The claims in a payload segment that can be trusted. -/
def accept (now : Instant) (payload : List Char) : Except AuthError Claims := do
  let members ← (Payload.ofSegment payload).mapError Fault.toAuthError
  let claims ← Claims.ofPayload members
  p.window.check now claims

/-- The claims of a token. -/
def authenticate (now : Instant) (token : String) : Except AuthError Claims := do
  let (segments, header) ← readHeader token
  if header.algorithm ≠ p.algorithm then .error .unsupportedSigningMethod else
    let key ← p.findKey header
    let payload ← verifiedPayload segments header.algorithm key
    let claims ← Claims.ofPayload payload
    p.window.check now claims

/-- Whether a policy has reason to trust the segments of a token: the header declares the algorithm
of the policy, a key is found for this very header, and the signature verifies under both. -/
def Trusts (segments : Compact) : Prop :=
  ∃ header key, Header.ofSegment? segments.header = some header ∧ header.algorithm = p.algorithm ∧
    p.findKey header = .ok key ∧ segments.Verifies p.algorithm key

variable {p} {now : Instant} {token : String} {segments : Compact} {header : Header}

/-- A token of another algorithm is refused for that. -/
theorem authenticate_of_algorithm_ne (hsegments : Compact.ofText? token = some segments)
    (hheader : Header.ofSegment? segments.header = some header)
    (hne : header.algorithm ≠ p.algorithm) :
    p.authenticate now token = .error .unsupportedSigningMethod := by
  rw [authenticate, readHeader_eq_ok_iff.mpr ⟨hsegments, hheader⟩]
  exact if_pos hne

/-- A token of the right algorithm for whose header there is a key is accepted by its payload. -/
theorem authenticate_of_findKey {key : VerifyingKey}
    (hsegments : Compact.ofText? token = some segments)
    (hheader : Header.ofSegment? segments.header = some header)
    (halgorithm : header.algorithm = p.algorithm) (hkey : p.findKey header = .ok key) :
    p.authenticate now token = (do
      let payload ← verifiedPayload segments p.algorithm key
      let claims ← Claims.ofPayload payload
      p.window.check now claims) := by
  rw [authenticate, readHeader_eq_ok_iff.mpr ⟨hsegments, hheader⟩]
  refine (if_neg fun hne ↦ hne halgorithm).trans ?_
  rw [hkey, halgorithm]
  rfl

/-- The payload of a trusted token decides. -/
theorem authenticate_of_trusts (hsegments : Compact.ofText? token = some segments)
    (h : p.Trusts segments) : p.authenticate now token = p.accept now segments.payload := by
  obtain ⟨header, key, hheader, halgorithm, hkey, hverifies⟩ := h
  rw [authenticate_of_findKey hsegments hheader halgorithm hkey,
    verifiedPayload_of_verifies hverifies, accept]

/-- What is answered is either said of a trusted token, or it is not about claims. -/
theorem trusts_or_error (p : Policy) (now : Instant) (token : String) :
    (∃ segments, Compact.ofText? token = some segments ∧ p.Trusts segments) ∨
      ∃ e, p.authenticate now token = .error e ∧ ¬e.OfClaims := by
  cases hread : readHeader token with
  | error e =>
    obtain rfl := readHeader_eq_error hread
    exact .inr ⟨.invalidToken, by rw [authenticate, hread]; rfl, id⟩
  | ok found =>
    obtain ⟨segments, header⟩ := found
    obtain ⟨hsegments, hheader⟩ := readHeader_eq_ok_iff.mp hread
    by_cases halgorithm : header.algorithm = p.algorithm
    · cases hkey : p.findKey header with
      | error e =>
        refine .inr ⟨e, ?_, ?_⟩
        · rw [authenticate, hread]
          refine (if_neg fun hne ↦ hne halgorithm).trans ?_
          rw [hkey]
          rfl
        · rcases p.findKey_eq_error _ _ hkey with rfl | rfl <;> exact id
      | ok key =>
        by_cases hverifies : segments.Verifies p.algorithm key
        · exact .inl ⟨segments, hsegments, header, key, hheader, halgorithm, hkey, hverifies⟩
        · obtain ⟨e, he, hclaims⟩ := verifiedPayload_of_not_verifies hverifies
          refine .inr ⟨e, ?_, hclaims⟩
          rw [authenticate_of_findKey hsegments hheader halgorithm hkey, he]
          rfl
    · exact .inr ⟨_, authenticate_of_algorithm_ne hsegments hheader halgorithm, id⟩

/-- A token that is accepted is one that can be trusted, with a payload that is accepted. -/
theorem accept_of_authenticate {c : Claims} (h : p.authenticate now token = .ok c) :
    ∃ segments, Compact.ofText? token = some segments ∧ p.Trusts segments ∧
      p.accept now segments.payload = .ok c := by
  rcases p.trusts_or_error now token with ⟨segments, hsegments, htrusts⟩ | ⟨e, he, -⟩
  · rw [authenticate_of_trusts hsegments htrusts] at h
    exact ⟨segments, hsegments, htrusts, h⟩
  · rw [he] at h
    cases h

end Policy

end Token

/-! ## The policies of the backends -/

namespace JwtAuthenticator

variable (a : JwtAuthenticator)

/-- What the authenticator insists on. -/
def policy : Token.Policy where
  algorithm := a.algorithm
  findKey header := (a.resolve header).map KeyPair.verifying
  findKey_eq_error := by
    intro header e h
    rw [resolve] at h
    repeat' split at h
    all_goals cases h
    · exact .inl rfl
    · exact .inr rfl
  window := a.window

/-- The authenticator accepts tokens by its policy. -/
theorem authenticateToken_eq (now : Instant) (token : String) :
    a.authenticateToken now token = a.policy.authenticate now token := by
  rw [authenticateToken, Token.Policy.authenticate]
  refine bind_congr fun ⟨segments, header⟩ ↦ ?_
  simp only [policy]
  cases a.resolve header <;> rfl

end JwtAuthenticator

namespace OidcAuthenticator

variable (a : OidcAuthenticator)

/-- What the relying party insists on, issuer and audience apart. -/
def policy : Token.Policy where
  algorithm := a.options.algorithm
  findKey := a.findKey
  findKey_eq_error := by
    intro header e h
    rw [findKey] at h
    split at h
    all_goals cases h
    exact .inr rfl
  window := a.window

/-- The relying party accepts tokens by its policy, and looks at issuer and audience only then. -/
theorem authenticateToken_eq (now : Instant) (token : String) :
    a.authenticateToken now token = a.policy.authenticate now token >>= a.checkParties := by
  rw [authenticateToken, verify, Token.Policy.authenticate]
  simp only [bind_assoc]
  refine bind_congr fun ⟨segments, header⟩ ↦ ?_
  by_cases halgorithm : header.algorithm = a.options.algorithm
  · simp only [policy, halgorithm, ne_eq, not_true, if_false, bind_assoc]
    refine bind_congr fun key ↦ bind_congr fun payload ↦ bind_congr fun claims ↦
      bind_congr fun claims ↦ ?_
    cases a.checkParties claims <;> rfl
  · simp only [policy, ne_eq, halgorithm, not_false_iff, if_true]
    rfl

end OidcAuthenticator

end BearerAuth
