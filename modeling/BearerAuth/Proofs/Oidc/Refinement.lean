import BearerAuth.Proofs.Token.RoundTrip
import Mathlib.Control.Monad.Basic

/-!
# Relying parties as verifiers of signed tokens

A relying party verifies a token exactly as an authenticator of signed tokens does that finds the
provider's keys by the key identifiers of headers.  Only what that authenticator accepts is looked
at for issuer and audience, in this order.
-/

namespace BearerAuth

open Token (Header Policy Signature.verifies)

namespace Claims

/-- Whether the claims are for someone; a single text counts as a list of one. -/
def addresses (c : Claims) (who : String) : Bool :=
  match c.get? RegisteredClaim.audience.name with
  | some (.text s) => s = who
  | some (.texts l) => who ∈ l
  | some (.number _) | none => false

/-- The audience consists of those whom the claims are for. -/
theorem mem_audience_iff {c : Claims} {who : String} :
    who ∈ c.audience ↔ c.addresses who = true := by
  rw [audience, getTexts, addresses]
  cases c.get? RegisteredClaim.audience.name with
  | none => simp [found]
  | some value => cases value <;> simp [found, eq_comm]

/-- The issuer is the text under its name. -/
theorem issuer_eq_some_iff {c : Claims} {s : String} :
    c.issuer = some s ↔ c.get? RegisteredClaim.issuer.name = some (.text s) := by
  rw [issuer, getText]
  cases c.get? RegisteredClaim.issuer.name with
  | none => simp [found]
  | some value => cases value <;> simp [found]

end Claims

open Network.Host (plainNames)

namespace OidcAuthenticator

/-- The options of an authenticator that does for signed tokens what a relying party does. -/
def signedOptions (o : OidcOptions) (keys : Option String → Option VerifyingKey)
    (keyId : Option String) : JwtOptions where
  algorithm := o.algorithm
  resolver := some fun header ↦ (keys header.keyId).map .verifyOnly
  keyId := keyId
  leeway := o.leeway

/-- What a relying party makes of the claims of a token that has been verified. -/
def judge (o : OidcOptions) (c : Claims) : Except AuthError Claims :=
  if c.get? RegisteredClaim.issuer.name ≠ some (.text o.issuerUrl) then .error .invalidIssuer
  else if c.addresses o.audience = false then .error .invalidAudience
  else .ok c

/-- Claims are judged, but not changed. -/
theorem eq_of_judge {o : OidcOptions} {c d : Claims} (h : judge o c = .ok d) : c = d := by
  rw [judge] at h
  repeat' split at h
  all_goals cases h
  rfl

theorem checkParties_eq (a : OidcAuthenticator) (c : Claims) :
    a.checkParties c = judge a.options c := by
  rw [checkParties, judge]
  simp only [ne_eq, Claims.issuer_eq_some_iff, Claims.mem_audience_iff, Bool.not_eq_true]

/-- A relying party that is made has what it was made from, and a window of its leeway. -/
theorem ofParts_eq_ok {names : Network.Names} {o : OidcOptions} {provider : Oidc.Provider}
    {keys : Option String → Option VerifyingKey} {a : OidcAuthenticator}
    (h : ofParts names o provider keys = .ok a) :
    ∃ window, Window.ofLeeway o.leeway = .ok window ∧ a = ⟨o, provider, keys, window⟩ := by
  obtain ⟨-, -, h⟩ := Except.bind_eq_ok_iff.mp h
  obtain ⟨window, hwindow, h⟩ := Except.bind_eq_ok_iff.mp h
  cases h
  exact ⟨window, hwindow, rfl⟩

/-- The policies are the same: where the one looks for a key in the key set, the other asks a
resolver that does. -/
theorem policy_eq (o : OidcOptions) (provider : Oidc.Provider)
    (keys : Option String → Option VerifyingKey) (keyId : Option String) (window : Window) :
    policy ⟨o, provider, keys, window⟩ = JwtAuthenticator.policy
      ⟨o.algorithm, (signedOptions o keys keyId).resolver, keyId, window⟩ := by
  refine Token.Policy.ext rfl (funext fun header ↦ ?_) rfl
  simp only [policy, findKey, JwtAuthenticator.policy, JwtAuthenticator.resolve, signedOptions]
  cases keys header.keyId with
  | none => rfl
  | some key => rfl

/-- A token that the provider has signed is decided by its claims, as they are read back. -/
theorem authenticateToken_signed {a : OidcAuthenticator} {j : JwtAuthenticator} {key : VerifyingKey}
    {c : Claims} {signature : List UInt8} (halgorithm : j.algorithm = a.options.algorithm)
    (hkey : a.findKey (.new j.algorithm j.keyId) = .ok key)
    (hverifies : Signature.verifies j.algorithm key (j.signedMessage c) signature = true)
    (hc : c.WellFormed) (hwhole : ∀ name value, c.get? name = some value → value.IsWhole)
    (now : Instant) :
    a.authenticateToken now (j.issued c signature).toText =
      a.window.check now c.reread >>= a.checkParties := by
  have htrusts : a.policy.Trusts (j.issued c signature) := by
    refine ⟨.new j.algorithm j.keyId, key, ?_, halgorithm, hkey, signature, ?_, ?_⟩
    · rw [JwtAuthenticator.header_issued, Token.Header.ofSegment?_toSegment]
    · rw [JwtAuthenticator.signature_issued, Base64.decode?_encode]
    · rw [JwtAuthenticator.messageBytes_issued]
      rw [halgorithm] at hverifies
      exact hverifies
  rw [authenticateToken_eq,
    Policy.authenticate_of_trusts (JwtAuthenticator.ofText?_issued _ _ _) htrusts,
    JwtAuthenticator.payload_issued, JwtAuthenticator.accept_toPayload _ hc hwhole]
  rfl

/-! ### A provider with one key -/

/-- The key of the provider. -/
def publishedKey : VerifyingKey :=
  .rsa ⟨0xfd3dbce5a4d05a3c33e8019989d5db4303d000aea9d6c136cc7c3f36d01c93d6 * 2 ^ 256 +
    0xd04d633df1fee25b4f805c69924e8920bc41e0a8a1e8fb01ab05a23b02b07dc5, 65537⟩

/-- The modulus of the key, as it is published. -/
def publishedModulus : String :=
  "_T285aTQWjwz6AGZidXbQwPQAK6p1sE2zHw_NtAck9bQTWM98f7iW0-AXGmSTokgvEHgqKHo-wGrBaI7ArB9xQ"

/-- What a relying party of the provider is made from. -/
def announcedOptions : OidcOptions where
  issuerUrl := "http://id.example"
  audience := "app"

/-- What a relying party finds among the keys of the provider. -/
def announcedKeys : Option String → Option VerifyingKey := Oidc.findKey? [(none, publishedKey)]

/-- A relying party of the provider. -/
def announced (issuer : String) : OidcAuthenticator where
  options := announcedOptions
  provider := { issuer, jwksUri := "http://id.example/k" }
  keys := announcedKeys
  window := .exact

/-- The options are good for the relying party, whatever the document of the provider says. -/
theorem ofParts_announced (issuer : String) (keys : Option String → Option VerifyingKey) :
    ofParts plainNames announcedOptions (announced issuer).provider keys =
      .ok { announced issuer with keys } := by
  have hvalid : announcedOptions.validate plainNames = .ok () := by decide +kernel
  rw [ofParts, hvalid]
  rfl

/-- Claims with the issuer and the audience that the relying party is set up for. -/
def announcedClaims : Claims :=
  ⟨.ofList [("aud", .text "app"), ("iss", .text "http://id.example")], .empty⟩

/-- What the provider signs with. -/
def signer : JwtAuthenticator := ⟨.rs256, none, none, .exact⟩

/-- The signature of the provider for the claims. -/
def announcedSignature : List UInt8 := Sha2.bytesOfNat 64 <|
  0x9c96786a9425954e9af427ea5deeeee183d840654445415217da26519c1fe7a9 * 2 ^ 256 +
    0x0596366aa707ec7ea26374a52f48d756605ca9a74766a1cd293acabe23527a5c

/-- The token of the provider for the claims. -/
def announcedToken : String := (signer.issued announcedClaims announcedSignature).toText

/-- The token is accepted, whatever issuer the document names. -/
theorem authenticateToken_announced (issuer : String) :
    (announced issuer).authenticateToken .epoch announcedToken = .ok announcedClaims := by
  have hverifies : Signature.verifies .rs256 publishedKey (signer.signedMessage announcedClaims)
      announcedSignature = true := by decide +kernel
  have hentries : announcedClaims.values.entries =
    [("aud", .text "app"), ("iss", .text "http://id.example")] := rfl
  have hc : announcedClaims.WellFormed := by
    refine Dict.forall_get?_iff.mpr ?_
    rw [hentries]
    decide
  have hwhole : ∀ name value, announcedClaims.get? name = some value → value.IsWhole := by
    refine Dict.forall_get?_iff.mpr ?_
    rw [hentries]
    simp [ClaimValue.IsWhole]
  have hsigned := authenticateToken_signed (a := announced issuer) (j := signer) rfl rfl hverifies
    hc hwhole .epoch
  rw [announcedToken, hsigned]
  change (announced "").window.check _ _ >>= (announced "").checkParties = _
  decide +kernel

/-! ## Signed tokens -/

/-- A relying party answers a token like the authenticator of signed tokens that goes by the same
keys, except that it judges the claims which that one accepts. -/
theorem authenticateToken_eq_signed {names : Network.Names} {o : OidcOptions}
    {provider : Oidc.Provider} {keys : Option String → Option VerifyingKey} {a : OidcAuthenticator}
    (h : ofParts names o provider keys = .ok a) (keyId : Option String) :
    ∃ j, JwtAuthenticator.ofOptions (signedOptions o keys keyId) = .ok j ∧
      ∀ now token, a.authenticateToken now token =
        match j.authenticateToken now token with
        | .error e => .error e
        | .ok c => judge o c := by
  obtain ⟨window, hwindow, rfl⟩ := ofParts_eq_ok h
  refine ⟨⟨o.algorithm, (signedOptions o keys keyId).resolver, keyId, window⟩, ?_, ?_⟩
  · rw [JwtAuthenticator.ofOptions, signedOptions, hwindow]
    rfl
  · intro now token
    rw [authenticateToken_eq, policy_eq o provider keys keyId,
      JwtAuthenticator.authenticateToken_eq]
    cases Token.Policy.authenticate _ now token with
    | error e => rfl
    | ok c => exact checkParties_eq _ c

/-- What is set up for someone else than the token that the provider has signed. -/
def elsewhere : OidcOptions := { announcedOptions with audience := "other" }

/-- Of the token that the provider has signed the authenticator accepts the claims, and so does the
relying party that they are for; the one that is set up for someone else refuses them. -/
theorem authenticateToken_eq_signed_announced :
    ∃ j, JwtAuthenticator.ofOptions (signedOptions announcedOptions announcedKeys none) = .ok j ∧
      j.authenticateToken .epoch announcedToken = .ok announcedClaims ∧
      ∃ a, ofParts plainNames elsewhere (announced "").provider announcedKeys = .ok a ∧
        a.authenticateToken .epoch announcedToken = .error .invalidAudience := by
  obtain ⟨j, hj, hanswers⟩ := authenticateToken_eq_signed (ofParts_announced "" announcedKeys) none
  have haccepted : j.authenticateToken .epoch announcedToken = .ok announcedClaims := by
    have hclaims := hanswers .epoch announcedToken
    rw [show { announced "" with keys := announcedKeys } = announced "" from rfl,
      authenticateToken_announced] at hclaims
    cases hsigned : j.authenticateToken .epoch announcedToken with
    | error e => rw [hsigned] at hclaims; cases hclaims
    | ok c =>
      rw [hsigned] at hclaims
      rw [eq_of_judge hclaims.symm]
  have helsewhere : ofParts plainNames elsewhere (announced "").provider announcedKeys =
      .ok { announced "" with options := elsewhere } := by
    have hvalid : elsewhere.validate plainNames = .ok () := by decide +kernel
    rw [ofParts, hvalid]
    rfl
  obtain ⟨j', hj', hrefuses⟩ := authenticateToken_eq_signed helsewhere none
  obtain rfl : j = j' := Except.ok.inj (hj.symm.trans hj')
  refine ⟨j, hj, haccepted, _, helsewhere, ?_⟩
  rw [hrefuses, haccepted]
  decide +kernel

end OidcAuthenticator

end BearerAuth
