import BearerAuth.Proofs.Claims.Shape
import BearerAuth.Proofs.Oidc.Issuer
import BearerAuth.Proofs.Oidc.Refinement
import BearerAuth.Proofs.Trust

/-!
# Identity tokens

To read an identity token is to accept a token and to lay out its claims (`verifyIdToken_eq`).  So
whatever is refused as a token is refused as an identity token, for the same reason, and only one
more reason is added: a nonce or a hash of the access token that is no text.  What the identity
token says otherwise are the claims (`IdToken.Presents`): its parties because they have been
checked, and the rest because accepted claims have the shapes that their names ask for.
-/

namespace BearerAuth

open Oidc (IdToken)
open Token (Policy)

namespace Claims

variable {c : Claims} {name : String}

/-- Whether something other than a text stands under a name. -/
def Garbles (c : Claims) (name : String) : Prop := ∃ v, c.get? name = some v ∧ ∀ s, v ≠ .text s

/-- The text of a name is read if nothing but a text stands there. -/
theorem getText_eq_ok_iff {s : Option String} :
    c.getText name = .ok s ↔ c.get? name = s.map .text := by
  rw [getText]
  cases c.get? name with
  | none => cases s <;> simp
  | some v => cases v <;> cases s <;> simp [eq_comm]

theorem getText_eq_error_iff {e : AuthError} :
    c.getText name = .error e ↔ c.Garbles name ∧ e = .invalidType := by
  rw [getText, Garbles]
  cases c.get? name with
  | none => simp
  | some v => cases v <;> simp [eq_comm]

/-- Dates are found where something stands under their names, and they are its instants. -/
theorem Shaped.rel_getDate (h : c.Shaped) {claim : RegisteredClaim}
    (hclaim : claim ∈ RegisteredClaim.dates) :
    Option.Rel (fun v t ↦ v.instant? = some t) (c.get? claim.name)
      (found (c.getDate claim.name)) := by
  rw [getDate]
  cases hv : c.get? claim.name with
  | none => exact .none
  | some v =>
    obtain ⟨x, t, rfl, ht, -⟩ := h.date claim hclaim v hv
    have hinstant : (ClaimValue.number x).instant? = some t := ht
    simp only [hinstant, found]
    exact .some hinstant

/-- A subject is found where one stands, and an empty text in its place otherwise. -/
theorem Shaped.subject_eq (h : c.Shaped) :
    (c.get? RegisteredClaim.subject.name).getD (.text "") = .text (c.subject.getD "") := by
  rw [subject, getText]
  cases hv : c.get? RegisteredClaim.subject.name with
  | none => rfl
  | some v =>
    obtain ⟨s, rfl⟩ := h.text .subject (by decide) v hv
    rfl

end Claims

/-! ## Laying out claims -/

namespace Oidc.IdToken

variable {c : Claims} {algorithm : Token.Algorithm} {t : IdToken}

/-- Claims are laid out if neither the nonce nor the hash of the access token is garbled. -/
theorem ofClaims_eq_ok_iff : ofClaims c algorithm = .ok t ↔
    ∃ nonce hash, c.get? "nonce" = nonce.map .text ∧ c.get? "at_hash" = hash.map .text ∧
      t = ⟨c.issuer.getD "", c.audience, c.subject.getD "", c.expirationTime, c.issuedAt, nonce,
        hash, algorithm, c⟩ := by
  simp only [ofClaims, Except.bind_eq_ok_iff, Claims.getText_eq_ok_iff]
  constructor
  · rintro ⟨nonce, hnonce, hash, hhash, h⟩
    cases h
    exact ⟨nonce, hash, hnonce, hhash, rfl⟩
  · rintro ⟨nonce, hash, hnonce, hhash, rfl⟩
    exact ⟨nonce, hnonce, hash, hhash, rfl⟩

/-- The only fault of claims that cannot be laid out is that one of the two is garbled. -/
theorem ofClaims_eq_error_iff {e : AuthError} : ofClaims c algorithm = .error e ↔
    (c.Garbles "nonce" ∨ c.Garbles "at_hash") ∧ e = .invalidType := by
  have hgarbles (name : String) : c.Garbles name ↔ c.getText name = .error .invalidType := by
    rw [Claims.getText_eq_error_iff, and_iff_left rfl]
  have herror {name : String} {e : AuthError} (h : c.getText name = .error e) :
      e = .invalidType := (Claims.getText_eq_error_iff.mp h).2
  rw [ofClaims, hgarbles, hgarbles]
  cases hnonce : c.getText "nonce" with
  | error e' =>
    obtain rfl := herror hnonce
    exact ⟨fun h ↦ ⟨.inl rfl, (Except.error.inj h).symm⟩, fun ⟨_, he⟩ ↦ he ▸ rfl⟩
  | ok nonce =>
    cases hhash : c.getText "at_hash" with
    | error e' =>
      obtain rfl := herror hhash
      exact ⟨fun h ↦ ⟨.inr rfl, (Except.error.inj h).symm⟩, fun ⟨_, he⟩ ↦ he ▸ rfl⟩
    | ok hash => exact ⟨nofun, fun ⟨h, _⟩ ↦ h.elim nofun nofun⟩

/-- What an identity token says that a relying party of some options has read, with some claims. -/
structure Presents (t : IdToken) (o : OidcOptions) (c : Claims) : Prop where
  /-- All claims are kept. -/
  claims : t.claims = c
  /-- The issuer is that of the options. -/
  issuer : t.issuer = o.issuerUrl
  /-- The audience is that of the claims. -/
  audience : ∀ who, who ∈ t.audience ↔ c.addresses who = true
  /-- The audience of the options is in it. -/
  addressed : o.audience ∈ t.audience
  /-- The algorithm is that of the options. -/
  algorithm : t.algorithm = o.algorithm
  /-- The subject is that of the claims, or empty. -/
  subject : (c.get? RegisteredClaim.subject.name).getD (.text "") = .text t.subject
  /-- The expiration time is the instant that the claims have for it. -/
  expiry : Option.Rel (fun v u ↦ v.instant? = some u)
    (c.get? RegisteredClaim.expirationTime.name) t.expiry
  /-- The time of issue is the instant that the claims have for it. -/
  issuedAt : Option.Rel (fun v u ↦ v.instant? = some u)
    (c.get? RegisteredClaim.issuedAt.name) t.issuedAt
  /-- The nonce is that of the claims. -/
  nonce : c.get? "nonce" = t.nonce.map .text
  /-- The hash of the access token is that of the claims. -/
  accessTokenHash : c.get? "at_hash" = t.accessTokenHash.map .text

end Oidc.IdToken

/-! ## Accepted claims -/

/-- Claims that are accepted are well formed. -/
theorem Token.Policy.wellFormed_of_authenticate {p : Policy} {now : Instant} {token : String}
    {c : Claims} (h : p.authenticate now token = .ok c) : c.WellFormed := by
  obtain ⟨_, -, -, haccept⟩ := Policy.accept_of_authenticate h
  obtain ⟨_, -, hread, -⟩ := Policy.payload_of_accept haccept
  exact Claims.wellFormed_ofPayload hread

namespace OidcAuthenticator

variable {a : OidcAuthenticator} {now : Instant} {token : String} {c : Claims} {t : IdToken}

theorem wellFormed_of_authenticateToken (h : a.authenticateToken now token = .ok c) :
    c.WellFormed :=
  Policy.wellFormed_of_authenticate (Authenticator.authenticate_of_authenticateToken
    (a := .oidc a) (p := a.policy) rfl h)

/-- To read an identity token is to accept a token and to lay out its claims. -/
theorem verifyIdToken_eq (a : OidcAuthenticator) (now : Instant) (token : String) :
    a.verifyIdToken now token =
      a.authenticateToken now token >>= fun c ↦ IdToken.ofClaims c a.options.algorithm := by
  rw [verifyIdToken, authenticateToken, verify]
  simp only [bind_assoc]
  refine bind_congr fun read ↦ ?_
  obtain ⟨segments, header⟩ := read
  by_cases halgorithm : header.algorithm = a.options.algorithm
  · simp only [halgorithm, ne_eq, not_true, if_false, bind_assoc, pure_bind]
  · simp only [ne_eq, halgorithm, not_false_iff, if_true]
    rfl

/-- Accepted claims that are laid out make an identity token that presents them. -/
theorem presents_of_ofClaims (h : a.authenticateToken now token = .ok c)
    (ht : IdToken.ofClaims c a.options.algorithm = .ok t) : t.Presents a.options c := by
  obtain ⟨nonce, hash, hnonce, hhash, rfl⟩ := IdToken.ofClaims_eq_ok_iff.mp ht
  obtain ⟨hissuer, haudience⟩ := parties_of_authenticateToken h
  have hshaped := (wellFormed_of_authenticateToken h).shaped
  exact {
    claims := rfl
    issuer := by rw [hissuer]; rfl
    audience := fun _ ↦ Claims.mem_audience_iff
    addressed := haudience
    algorithm := rfl
    subject := hshaped.subject_eq
    expiry := hshaped.rel_getDate (by decide)
    issuedAt := hshaped.rel_getDate (by decide)
    nonce := hnonce
    accessTokenHash := hhash }

/-- An identity token presents the claims of a token that is accepted. -/
theorem presents_of_verifyIdToken (h : a.verifyIdToken now token = .ok t) :
    ∃ c, a.authenticateToken now token = .ok c ∧ t.Presents a.options c := by
  rw [verifyIdToken_eq] at h
  obtain ⟨c, hc, ht⟩ := Except.bind_eq_ok_iff.mp h
  exact ⟨c, hc, presents_of_ofClaims hc ht⟩

/-- A token that is refused is refused as an identity token, for the same reason.  One that is
accepted is refused as an identity token just if its nonce or its hash of the access token is no
text, and otherwise it is an identity token that presents the claims.  So an identity token is
always a token that is accepted. -/
theorem verifyIdToken_decided (a : OidcAuthenticator) (now : Instant) (token : String) :
    (∀ e, a.authenticateToken now token = .error e → a.verifyIdToken now token = .error e) ∧
    (∀ c, a.authenticateToken now token = .ok c →
      (a.verifyIdToken now token = .error .invalidType ↔
        c.Garbles "nonce" ∨ c.Garbles "at_hash") ∧
      (¬(c.Garbles "nonce" ∨ c.Garbles "at_hash") →
        ∃ t, a.verifyIdToken now token = .ok t ∧ t.Presents a.options c)) ∧
    ∀ t, a.verifyIdToken now token = .ok t →
      ∃ c, a.authenticateToken now token = .ok c ∧ t.Presents a.options c := by
  refine ⟨fun e he ↦ ?_, fun c hc ↦ ?_, fun t ht ↦ presents_of_verifyIdToken ht⟩
  · rw [verifyIdToken_eq, he]
    rfl
  · have hread : a.verifyIdToken now token = IdToken.ofClaims c a.options.algorithm := by
      rw [verifyIdToken_eq, hc]
      rfl
    rw [hread]
    refine ⟨by rw [IdToken.ofClaims_eq_error_iff, and_iff_left rfl], fun hgarbles ↦ ?_⟩
    cases ht : IdToken.ofClaims c a.options.algorithm with
    | ok t => exact ⟨t, rfl, presents_of_ofClaims hc ht⟩
    | error e => exact absurd (IdToken.ofClaims_eq_error_iff.mp ht).1 hgarbles

/-! ## Two identity tokens of a provider -/

/-- The key of the provider. -/
def bindingKey : VerifyingKey :=
  .rsa ⟨0xa4cbb70f508d3df7dfd2642c9b67afd8aa4e23b34c79c817f7ae6b358b8eb433 * 2 ^ 256 +
    0x0b7fafb2806c29eb589a85b04e597a1581908eeb94662224288ae8ff2da73309, 65537⟩

/-- A relying party of the provider. -/
def binder : OidcAuthenticator :=
  { announced "http://id.example" with keys := fun _ ↦ some bindingKey }

/-- Claims about someone who has sent a nonce and holds an access token. -/
def boundClaims : Claims where
  values := .ofList [("at_hash", .text "2fuS47vmW-HxqtSoLu9FZw"), ("aud", .text "app"),
    ("iss", .text "http://id.example"), ("nonce", .text "n1"), ("sub", .text "ann")]
  scopes := .empty

/-- The signature of the provider for these claims. -/
def boundSignature : List UInt8 := Sha2.bytesOfNat 64 <|
  0x10341d9a492687ef7b37c43ce9b3bec61ed77d0048d3c699deedbb22ed8e549f * 2 ^ 256 +
    0x0ee1fec0a7e13515dc0017e29c0dccc7b0b3ffc7fd6fb44794ae9d5a76ffd783

/-- The token of the provider for these claims. -/
def boundToken : String := (signer.issued boundClaims boundSignature).toText

/-- Claims with a nonce that is a number. -/
def garbledClaims : Claims where
  values := .ofList [("aud", .text "app"), ("iss", .text "http://id.example"),
    ("nonce", .number (.ofInt 5))]
  scopes := .empty

/-- The signature of the provider for these claims. -/
def garbledSignature : List UInt8 := Sha2.bytesOfNat 64 <|
  0x7452053e40a00ff4ccd5ff00046909f16b994abf5a2e1eb7c4a4200db028d9ff * 2 ^ 256 +
    0x1acff14383c66942da698aaecbba460a930bb0840d185e8ec52a7dd60726e94e

/-- The token of the provider for these claims. -/
def garbledToken : String := (signer.issued garbledClaims garbledSignature).toText

/-- Both tokens are accepted. -/
theorem authenticateToken_binder :
    binder.authenticateToken .epoch boundToken = .ok boundClaims ∧
      binder.authenticateToken .epoch garbledToken = .ok garbledClaims := by
  have hbound : boundClaims.values.entries =
    [("at_hash", .text "2fuS47vmW-HxqtSoLu9FZw"), ("aud", .text "app"),
      ("iss", .text "http://id.example"), ("nonce", .text "n1"), ("sub", .text "ann")] := rfl
  have hgarbled : garbledClaims.values.entries =
    [("aud", .text "app"), ("iss", .text "http://id.example"),
      ("nonce", .number (.ofInt 5))] := rfl
  have hfive : ∃ n : Int, (Binary64.ofInt 5).toInt? = some n ∧ n.natAbs < 2 ^ 53 :=
    ⟨5, by decide, by decide⟩
  constructor
  · have hverifies : Token.Signature.verifies .rs256 bindingKey (signer.signedMessage boundClaims)
        boundSignature = true := by decide +kernel
    have hsigned := authenticateToken_signed (a := binder) (j := signer) rfl rfl hverifies
      (Dict.forall_get?_iff.mpr (by rw [hbound]; decide))
      (Dict.forall_get?_iff.mpr (by rw [hbound]; simp [ClaimValue.IsWhole])) .epoch
    rw [boundToken, hsigned]
    decide +kernel
  · have hverifies : Token.Signature.verifies .rs256 bindingKey (signer.signedMessage garbledClaims)
        garbledSignature = true := by decide +kernel
    have hsigned := authenticateToken_signed (a := binder) (j := signer) rfl rfl hverifies
      (Dict.forall_get?_iff.mpr (by rw [hgarbled]; decide))
      (Dict.forall_get?_iff.mpr (by rw [hgarbled]; simp [ClaimValue.IsWhole, hfive])) .epoch
    rw [garbledToken, hsigned]
    decide +kernel

/-- One of the two is an identity token with its nonce and its subject, and the other one, although
it is accepted, is none. -/
theorem verifyIdToken_decided_binder :
    (∃ t, binder.verifyIdToken .epoch boundToken = .ok t ∧ t.issuer = "http://id.example" ∧
      t.subject = "ann" ∧ t.nonce = some "n1" ∧ t.expiry = none) ∧
      binder.authenticateToken .epoch garbledToken = .ok garbledClaims ∧
      binder.verifyIdToken .epoch garbledToken = .error .invalidType := by
  obtain ⟨hbound, hgarbled⟩ := authenticateToken_binder
  have hgarbles : garbledClaims.Garbles "nonce" := ⟨.number (.ofInt 5), rfl, nofun⟩
  have hclear : ¬(boundClaims.Garbles "nonce" ∨ boundClaims.Garbles "at_hash") := by
    rintro (⟨v, hv, hne⟩ | ⟨v, hv, hne⟩)
    · exact hne _ (Option.some.inj hv).symm
    · exact hne _ (Option.some.inj hv).symm
  refine ⟨?_, hgarbled, ((verifyIdToken_decided _ _ _).2.1 _ hgarbled).1.mpr (.inl hgarbles)⟩
  obtain ⟨t, ht, hpresents⟩ := ((verifyIdToken_decided _ _ _).2.1 _ hbound).2 hclear
  refine ⟨t, ht, hpresents.issuer, ?_, ?_, ?_⟩
  · exact (ClaimValue.text.inj hpresents.subject).symm
  · have hnonce := hpresents.nonce
    cases hn : t.nonce with
    | none => rw [hn] at hnonce; cases hnonce
    | some n => rw [hn] at hnonce; cases hnonce; rfl
  · have hexpiry := hpresents.expiry
    cases hu : t.expiry with
    | none => rfl
    | some u => rw [hu] at hexpiry; cases hexpiry

end OidcAuthenticator

end BearerAuth
