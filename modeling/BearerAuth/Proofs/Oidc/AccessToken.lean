import BearerAuth.Proofs.Oidc.IdToken

/-!
# Identity tokens that are bound to access tokens

An identity token may carry the hash of an access token: the first half of a digest, in base 64.
The digest is the one whose size the name of the algorithm tells (`Algorithm.HashedBy`), and every
algorithm that a relying party can be made with has such a size (`exists_hashedBy`), so the hash of
an access token is never missing.  The hash is compared as a text.  Since bytes have one text, this
is to compare the halves of the digests themselves.
-/

namespace BearerAuth

open Oidc (IdToken)
open Token (Algorithm)

/-! ## The digest of an algorithm -/

namespace Token.Algorithm

variable {a : Algorithm} {v : Sha2.Variant}

/-- Whether an algorithm with a public key hashes by a hash whose number of bits ends its name. -/
def HashedBy (a : Algorithm) (v : Sha2.Variant) : Prop :=
  v ∈ [Sha2.sha256, Sha2.sha384, Sha2.sha512] ∧
    ∃ family ∈ ["RS", "PS", "ES"], a.name = family ++ (8 * v.digestBytes).repr

/-- The algorithms that a relying party accepts have a hash. -/
theorem exists_hashedBy (h : a ∈ Oidc.supportedAlgorithms) : ∃ v, a.HashedBy v := by
  cases a with
  | rs256 => exact ⟨Sha2.sha256, by simp, "RS", by simp, by decide⟩
  | rs384 => exact ⟨Sha2.sha384, by simp, "RS", by simp, by decide⟩
  | rs512 => exact ⟨Sha2.sha512, by simp, "RS", by simp, by decide⟩
  | ps256 => exact ⟨Sha2.sha256, by simp, "PS", by simp, by decide⟩
  | ps384 => exact ⟨Sha2.sha384, by simp, "PS", by simp, by decide⟩
  | ps512 => exact ⟨Sha2.sha512, by simp, "PS", by simp, by decide⟩
  | es256 => exact ⟨Sha2.sha256, by simp, "ES", by simp, by decide⟩
  | es384 => exact ⟨Sha2.sha384, by simp, "ES", by simp, by decide⟩
  | hs256 | hs384 | hs512 | eddsa => exact absurd h (by decide)

/-- The hash in the name is the one that signatures are made with. -/
theorem HashedBy.hash?_eq (h : a.HashedBy v) : a.hash? = some v ∧ a.family ≠ .hmac := by
  obtain ⟨hv, family, hfamily, hname⟩ := h
  have hof := ofName?_name a
  rw [hname] at hof
  simp only [List.mem_cons, List.not_mem_nil, or_false] at hv hfamily
  rcases hv with rfl | rfl | rfl <;> rcases hfamily with rfl | rfl | rfl
  -- one of the nine names, that of an elliptic curve with 512 bits, belongs to no algorithm
  all_goals cases hof <;> exact ⟨rfl, nofun⟩

end Token.Algorithm

namespace Oidc

variable {v : Sha2.Variant} {accessToken : String}

/-- The first half of the digest of an access token. -/
def halfDigest (v : Sha2.Variant) (accessToken : String) : List UInt8 :=
  (Sha2.digest v (Text.toBytes accessToken)).take (v.digestBytes / 2)

/-- The text of the first half of the digest of an access token. -/
def binding (v : Sha2.Variant) (accessToken : String) : String :=
  String.ofList (Base64.encode .url (halfDigest v accessToken))

/-- The three digests have 32, 48 and 64 bytes. -/
theorem length_digest_of_mem (hv : v ∈ [Sha2.sha256, Sha2.sha384, Sha2.sha512])
    (message : List UInt8) :
    (Sha2.digest v message).length = v.digestBytes ∧ v.digestBytes ∈ [32, 48, 64] := by
  rw [Sha2.length_digest]
  simp only [List.mem_cons, List.not_mem_nil, or_false] at hv
  rcases hv with rfl | rfl | rfl <;> decide

/-- The hash under an algorithm is the text of half of its digest. -/
theorem accessTokenHash_eq {a : Algorithm} (h : a.HashedBy v) (accessToken : String) :
    accessTokenHash a accessToken = .ok (binding v accessToken) := by
  obtain ⟨hhash, hfamily⟩ := h.hash?_eq
  simp only [accessTokenHash, hhash, hfamily, if_false, (length_digest_of_mem h.1 _).1]
  rfl

/-- A text is read as half of the digest of an access token if it is the text of it. -/
theorem decode?_eq_halfDigest_iff {s : String} :
    Base64.decode? .url s.toList = some (halfDigest v accessToken) ↔ s = binding v accessToken := by
  rw [Base64.decode?_eq_some_iff, binding, ← String.toList_inj, String.toList_ofList]

/-- Access tokens have the same hash just if they agree in half of the digest. -/
theorem binding_eq_iff {other : String} :
    binding v accessToken = binding v other ↔ halfDigest v accessToken = halfDigest v other := by
  rw [← decode?_eq_halfDigest_iff, decode?_eq_halfDigest_iff.mpr rfl, Option.some.injEq]

/-- Texts that show the digest of an access token in another way. -/
inductive Disguise (v : Sha2.Variant) (accessToken : String) : String → Prop
  /-- With something behind it, such as padding. -/
  | padded {pad : String} : pad ≠ "" → Disguise v accessToken (binding v accessToken ++ pad)
  /-- With a character that is no digit, such as one of the other alphabet. -/
  | foreign {s : String} {c : Char} : c ∈ s.toList → Base64.Alphabet.url.value? c = none →
      Disguise v accessToken s
  /-- The whole digest, in the digits of either alphabet. -/
  | whole (t : Base64.Alphabet) : Disguise v accessToken
      (String.ofList (Base64.encode t (Sha2.digest v (Text.toBytes accessToken))))
  /-- The digits of other bytes, such as those of another text of the hash. -/
  | bytes {b : UInt8} {l : List UInt8} : b :: l ≠ halfDigest v accessToken →
      Disguise v accessToken (String.ofList (Base64.encode .url (b :: l)))

/-- The hash of an access token has 22, 32 or 43 characters. -/
theorem length_binding (hv : v ∈ [Sha2.sha256, Sha2.sha384, Sha2.sha512]) :
    (binding v accessToken).length = (4 * (v.digestBytes / 2) + 2) / 3 := by
  rw [binding, String.length_ofList, Base64.length_encode, halfDigest, List.length_take,
    (length_digest_of_mem hv _).1, Nat.min_eq_left (Nat.div_le_self _ 2)]

theorem binding_ne_empty (hv : v ∈ [Sha2.sha256, Sha2.sha384, Sha2.sha512]) :
    binding v accessToken ≠ "" := by
  intro h
  have hlength : (binding v accessToken).length = _ := length_binding hv
  have hsize := (length_digest_of_mem hv []).2
  simp only [h, String.length_empty, List.mem_cons, List.not_mem_nil, or_false] at hlength hsize
  omega

theorem ne_of_length_lt {s : String} (h : (binding v accessToken).length < s.length) :
    s ≠ "" ∧ s ≠ binding v accessToken := by
  constructor
  · rintro rfl
    exact Nat.not_lt_zero _ h
  · rintro rfl
    exact lt_irrefl _ h

/-- A disguise is a text, and not the one that is asked for. -/
theorem Disguise.ne (hv : v ∈ [Sha2.sha256, Sha2.sha384, Sha2.sha512]) {s : String}
    (h : Disguise v accessToken s) : s ≠ "" ∧ s ≠ binding v accessToken := by
  cases h with
  | @padded pad hpad =>
    refine ne_of_length_lt ?_
    have hpos : pad.length ≠ 0 := mt String.length_eq_zero_iff.mp hpad
    rw [String.length_append]
    omega
  | @foreign _ c hc hvalue =>
    constructor
    · rintro rfl
      cases hc
    · rintro rfl
      rw [binding, String.toList_ofList] at hc
      exact Base64.forall_mem_encode _ _ c hc hvalue
  | whole t =>
    refine ne_of_length_lt ?_
    obtain ⟨hdigest, hsize⟩ := length_digest_of_mem hv (Text.toBytes accessToken)
    simp only [List.mem_cons, List.not_mem_nil, or_false] at hsize
    rw [length_binding hv, String.length_ofList, Base64.length_encode, hdigest]
    omega
  | @bytes b l hne =>
    constructor
    · intro h
      have hlength := congrArg String.length h
      rw [String.length_ofList, Base64.length_encode, List.length_cons,
        String.length_empty] at hlength
      omega
    · intro h
      rw [← decode?_eq_halfDigest_iff, String.toList_ofList, Base64.decode?_encode] at h
      exact hne (Option.some.inj h)

namespace IdToken

variable {t : IdToken} {hash : String}

/-- What there is of a hash is compared with the one of the access token. -/
theorem verifyAccessToken_eq (hhash : Oidc.accessTokenHash t.algorithm accessToken = .ok hash) :
    t.verifyAccessToken accessToken =
      if t.accessTokenHash.getD "" = "" then .error .noAccessTokenHash
      else if t.accessTokenHash = some hash then .ok () else .error .wrongAccessTokenHash := by
  rw [verifyAccessToken, hhash]
  split
  · next hnone => rw [hnone]; rfl
  · next hempty => rw [hempty]; rfl
  · next s hne hs =>
    have hs' : s ≠ "" := hne
    simp only [hs, Option.getD_some, hs', if_false, Option.some.injEq, eq_comm]

/-- The claim with the hash decides what becomes of an access token. -/
theorem verifyAccessToken_cases (hhash : Oidc.accessTokenHash t.algorithm accessToken = .ok hash)
    (hne : hash ≠ "") (hclaim : t.claims.get? "at_hash" = t.accessTokenHash.map .text) :
    (t.verifyAccessToken accessToken = .error .noAccessTokenHash ↔
      t.claims.get? "at_hash" = none ∨ t.claims.get? "at_hash" = some (.text "")) ∧
    (t.verifyAccessToken accessToken = .ok () ↔ t.claims.get? "at_hash" = some (.text hash)) ∧
    (t.verifyAccessToken accessToken = .error .wrongAccessTokenHash ↔
      t.claims.get? "at_hash" ≠ none ∧ t.claims.get? "at_hash" ≠ some (.text "") ∧
        t.claims.get? "at_hash" ≠ some (.text hash)) ∧
    t.verifyAccessToken accessToken ≠ .error .unsupportedSigningMethod := by
  rw [verifyAccessToken_eq hhash, hclaim]
  cases t.accessTokenHash with
  | none => simp
  | some s =>
    by_cases hempty : s = ""
    · simp [hempty, hne.symm]
    · by_cases hs : s = hash <;> simp [hempty, hs, hne]

end IdToken

end Oidc

namespace OidcAuthenticator

variable {a : OidcAuthenticator} {now : Instant} {token : String} {t : IdToken}

/-- The relying parties that there are: made from parts or by asking a provider, and with other keys
later on. -/
inductive Constructed : OidcAuthenticator → Prop
  /-- From a provider and keys that are known. -/
  | ofParts {names : Network.Names} {o : OidcOptions} {provider : Oidc.Provider}
      {keys : Option String → Option VerifyingKey} {a : OidcAuthenticator} :
      OidcAuthenticator.ofParts names o provider keys = .ok a → Constructed a
  /-- From what a provider serves. -/
  | connect {names : Network.Names} {pages : Network.Pages} {o : OidcOptions}
      {a : OidcAuthenticator} : OidcAuthenticator.connect names pages o = .ok a → Constructed a
  /-- By a refresh of the keys. -/
  | holding {a : OidcAuthenticator} (held : Oidc.RemoteKeySet) : Constructed a →
      Constructed (a.holding held)

theorem supported_of_ofParts {names : Network.Names} {o : OidcOptions} {provider : Oidc.Provider}
    {keys : Option String → Option VerifyingKey}
    (h : OidcAuthenticator.ofParts names o provider keys = .ok a) :
    a.options.algorithm ∈ Oidc.supportedAlgorithms := by
  obtain ⟨_, hvalid, -⟩ := Except.bind_eq_ok_iff.mp h
  obtain ⟨window, -, rfl⟩ := ofParts_eq_ok h
  rw [OidcOptions.validate] at hvalid
  repeat' split at hvalid
  all_goals cases hvalid
  next halgorithm => exact not_not.mp halgorithm

/-- No relying party has an algorithm that it could not have been made with. -/
theorem Constructed.supported (h : a.Constructed) :
    a.options.algorithm ∈ Oidc.supportedAlgorithms := by
  induction h with
  | ofParts h => exact supported_of_ofParts h
  | connect h =>
    obtain ⟨_, _, b, -, -, hb, rfl⟩ := connect_eq_ok_iff.mp h
    exact supported_of_ofParts (a := b) hb
  | holding _ _ ih => exact ih

/-- An identity token of a relying party accepts an access token just if its hash is the text of the
first half of the digest that goes with the algorithm.  It says if it has no hash, or an empty one,
and that the hash is wrong in every other case, so also for every other way to show the digest; but
never that it has no such hash.  The access tokens that it accepts agree in half of the digest. -/
theorem verifyAccessToken_decided (ha : a.Constructed) (ht : a.verifyIdToken now token = .ok t) :
    ∃ v, a.options.algorithm.HashedBy v ∧
      (∀ accessToken,
        (t.verifyAccessToken accessToken = .error .noAccessTokenHash ↔
          t.claims.get? "at_hash" = none ∨ t.claims.get? "at_hash" = some (.text "")) ∧
        (t.verifyAccessToken accessToken = .ok () ↔
          t.claims.get? "at_hash" = some (.text (Oidc.binding v accessToken))) ∧
        (t.verifyAccessToken accessToken = .error .wrongAccessTokenHash ↔
          t.claims.get? "at_hash" ≠ none ∧ t.claims.get? "at_hash" ≠ some (.text "") ∧
            t.claims.get? "at_hash" ≠ some (.text (Oidc.binding v accessToken))) ∧
        t.verifyAccessToken accessToken ≠ .error .unsupportedSigningMethod ∧
        ∀ s, t.claims.get? "at_hash" = some (.text s) →
          (t.verifyAccessToken accessToken = .ok () ↔
            Base64.decode? .url s.toList = some (Oidc.halfDigest v accessToken)) ∧
          (Oidc.Disguise v accessToken s →
            t.verifyAccessToken accessToken = .error .wrongAccessTokenHash)) ∧
      ∀ x y, t.verifyAccessToken x = .ok () → t.verifyAccessToken y = .ok () →
        Oidc.halfDigest v x = Oidc.halfDigest v y := by
  obtain ⟨v, hv⟩ := Algorithm.exists_hashedBy ha.supported
  obtain ⟨c, -, hpresents⟩ := presents_of_verifyIdToken ht
  have hclaim : t.claims.get? "at_hash" = t.accessTokenHash.map .text := by
    rw [hpresents.claims, hpresents.accessTokenHash]
  have hcases (accessToken : String) := IdToken.verifyAccessToken_cases
    (hpresents.algorithm ▸ Oidc.accessTokenHash_eq hv accessToken) (Oidc.binding_ne_empty hv.1)
    hclaim
  refine ⟨v, hv, fun accessToken ↦ ?_, fun x y hx hy ↦ ?_⟩
  · obtain ⟨hmissing, hok, hwrong, hsupported⟩ := hcases accessToken
    refine ⟨hmissing, hok, hwrong, hsupported, fun s hs ↦ ⟨?_, fun hdisguise ↦ ?_⟩⟩
    · rw [hok, hs, Oidc.decode?_eq_halfDigest_iff, Option.some.injEq, ClaimValue.text.injEq]
    · obtain ⟨hne, hother⟩ := hdisguise.ne hv.1
      rw [hwrong, hs]
      simp [hne, hother]
  · have hx := (hcases x).2.1.mp hx
    have hy := (hcases y).2.1.mp hy
    rw [hx, Option.some.injEq, ClaimValue.text.injEq] at hy
    exact Oidc.binding_eq_iff.mp hy

/-- The relying party of the provider is made from its parts. -/
theorem constructed_binder : binder.Constructed :=
  .ofParts (ofParts_announced "http://id.example" fun _ ↦ some bindingKey)

/-- The hash in the claims is that of one access token, and not of another. -/
theorem binding_opensesame :
    Oidc.binding Sha2.sha256 "opensesame" = "2fuS47vmW-HxqtSoLu9FZw" ∧
      Oidc.binding Sha2.sha256 "guess" ≠ "2fuS47vmW-HxqtSoLu9FZw" := by decide +kernel

/-- The identity token of the provider accepts the one access token and refuses the other. -/
theorem verifyAccessToken_decided_binder :
    binder.Constructed ∧ ∃ t, binder.verifyIdToken .epoch boundToken = .ok t ∧
      t.verifyAccessToken "opensesame" = .ok () ∧
      t.verifyAccessToken "guess" = .error .wrongAccessTokenHash := by
  obtain ⟨hbinding, hother⟩ := binding_opensesame
  have hread : ∃ t, binder.verifyIdToken .epoch boundToken = .ok t ∧
      t.claims.get? "at_hash" = some (.text "2fuS47vmW-HxqtSoLu9FZw") := by
    rw [verifyIdToken_eq, authenticateToken_binder.1]
    exact ⟨_, rfl, rfl⟩
  obtain ⟨t, ht, hclaim⟩ := hread
  obtain ⟨v, hv, hdecided, -⟩ := verifyAccessToken_decided constructed_binder ht
  obtain rfl : Sha2.sha256 = v := Option.some.inj hv.hash?_eq.1
  refine ⟨constructed_binder, t, ht, ?_, ?_⟩
  · rw [(hdecided _).2.1, hclaim, hbinding]
  · rw [(hdecided _).2.2.1, hclaim]
    simp [hother.symm]

end OidcAuthenticator

end BearerAuth
