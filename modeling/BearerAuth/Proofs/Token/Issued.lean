import BearerAuth.Proofs.Claims.Wire
import BearerAuth.Proofs.Json.Decimal
import BearerAuth.Proofs.Token.Policy
import BearerAuth.Proofs.Token.Segments

/-!
# Issued tokens

What is known of a token that has been issued: where its segments come from
(`JwtAuthenticator.createIdentity_eq_ok_iff`), that it is taken apart into them again, that its
payload segment is read back as the payload of the claims, whole numbers granted, and that a
signature made with a secret verifies under the same secret.
-/

namespace BearerAuth

open Json (Source)
open Token (Algorithm Compact Header Payload.isFilled Payload.isNested Payload.isPlain
  Payload.isPlain_written Payload.ofSegment Payload.ofSegment_toSegment Payload.toSegment Policy
  Signature.sign Signature.verifies)

/-! ## Payload segments -/

namespace ClaimValue

/-- Whether a value, if it is a number, is a whole one that all numbers near it are told apart
from. -/
def IsWhole : ClaimValue → Prop
  | .number x => ∃ n, x.toInt? = some n ∧ n.natAbs < 2 ^ 53
  | .text _ | .texts _ => True

variable {v : ClaimValue}

/-- The texts of finite numbers are numerals. -/
theorem numeric_toJson (h : v.IsFinite) : v.toJson.Numeric := by
  cases v with
  | text s => trivial
  | texts l =>
    refine Json.numericItems_iff.mpr fun item hitem ↦ ?_
    obtain ⟨s, -, rfl⟩ := List.mem_map.mp hitem
    trivial
  | number x =>
    rw [toJson, numberToJson]
    split
    · split
      · exact Json.Number.isNumeral_integer _
      · exact Json.Number.isNumeral_float h
    · have hfinite : x.isFinite = true := h
      rw [if_pos hfinite]
      exact Json.Number.isNumeral_float hfinite

/-- Whole numbers, texts and lists of texts are read as they were written. -/
theorem toJsonAt_toJson (h : v.IsWhole) (depth : Nat) :
    Source.toJsonAt (depth + 1) v.toJson.written = some v.toJson := by
  cases v with
  | text s => rfl
  | texts l =>
    have hitems := Json.itemsToJson_strings depth l
    simp [toJson, Json.ofStrings, Json.written, Source.toJsonAt, hitems]
  | number x =>
    obtain ⟨n, hx, hn⟩ := h
    have hreread : (Json.Number.integer n).reread = some (.integer n) :=
      Json.Number.reread_integer (by omega) (by omega)
    rw [toJson_number hx hn, Json.ofInt, Json.written, hreread]
    rfl

end ClaimValue

namespace Claims

variable {c : Claims}

/-- A member of a payload is the JSON value of a claim, or the text of the scopes. -/
theorem mem_toPayload {name : String} {v : Json} (h : c.toPayload.get? name = some v) :
    (∃ value, c.get? name = some value ∧ v = value.toJson) ∨ v = .string c.scopes.toText := by
  rw [get?_toPayload] at h
  split at h
  · exact .inr (Option.some.inj h).symm
  · obtain ⟨value, hvalue, rfl⟩ := Option.map_eq_some_iff.mp h
    exact .inl ⟨value, hvalue, rfl⟩

/-- Where something holds of each text and of the JSON value of each claim, it holds of each member
of a payload. -/
theorem forall_toPayload {P : Json → Prop} (htext : ∀ s, P (.string s))
    (hvalue : ∀ name value, c.get? name = some value → P value.toJson) :
    ∀ p ∈ c.toPayload.entries, P p.2 := by
  rintro ⟨name, v⟩ hmem
  rcases mem_toPayload (Dict.mem_entries_iff.mp hmem) with ⟨value, hget, rfl⟩ | rfl
  · exact hvalue name value hget
  · exact htext _

/-- The registered members of the payload of well-formed claims stand in a bearable shape. -/
theorem WellFormed.isPlain_toPayload (h : c.WellFormed) :
    Payload.isPlain (Json.writtenMembers c.toPayload.entries) = true := by
  have hshape (claim : RegisteredClaim) {v : Json} (hv : c.toPayload.get? claim.name = some v) :
      (∃ value, claim.accepts value = true ∧ v = value.toJson) ∨ v = .string c.scopes.toText := by
    rcases mem_toPayload hv with ⟨value, hget, hvalue⟩ | hscope
    · exact .inl ⟨value, (accepts_name claim value).symm.trans (h _ _ hget).2, hvalue⟩
    · exact .inr hscope
  refine Payload.isPlain_written (fun v hv ↦ ?_) fun name hname v hv ↦ ?_
  · rcases hshape .subject hv with ⟨value, hacc, rfl⟩ | rfl
    · cases value with
      | text s => rfl
      | texts l => cases hacc
      | number x => cases hacc
    · rfl
  · have hdate : (∃ value : ClaimValue, value.instant?.isSome = true ∧ v = value.toJson) ∨
        v = .string c.scopes.toText := by
      simp only [List.mem_cons, List.not_mem_nil, or_false] at hname
      rcases hname with rfl | rfl
      · exact hshape .expirationTime hv
      · exact hshape .notBefore hv
    rcases hdate with ⟨value, hinstant, rfl⟩ | rfl
    · cases value with
      | text s => cases hinstant
      | texts l => cases hinstant
      | number x =>
        rw [ClaimValue.toJson, ClaimValue.numberToJson]
        split
        · split <;> rfl
        · split <;> rfl
    · rfl

/-- The numbers in the payload of well-formed claims are written as numerals. -/
theorem WellFormed.numeric_toPayload (h : c.WellFormed) : (Json.ofDict c.toPayload).Numeric :=
  Json.numericMembers_iff.mpr <| forall_toPayload (fun _ ↦ trivial)
    fun _ _ hvalue ↦ ClaimValue.numeric_toJson (isFinite_of_accepts (h _ _ hvalue).2)

/-- The payload segment of claims with whole numbers is read back as their payload. -/
theorem WellFormed.ofSegment_toPayload (h : c.WellFormed)
    (hwhole : ∀ name value, c.get? name = some value → value.IsWhole) :
    Payload.ofSegment (Payload.toSegment c.toPayload) = .ok c.toPayload := by
  refine Payload.ofSegment_toSegment h.numeric_toPayload ?_ h.isPlain_toPayload
  exact forall_toPayload (P := fun v ↦ Source.toJsonAt 126 v.written = some v) (fun _ ↦ rfl)
      fun name value hvalue ↦ ClaimValue.toJsonAt_toJson (hwhole name value hvalue) 125

end Claims

/-! ## Signatures with a secret -/

namespace Token.Signature

/-- A signature that a secret makes is one that it verifies. -/
theorem verifies_of_sign {a : Algorithm} {bytes message signature : List UInt8} {random : Nat}
    (h : sign a (.secret bytes) random message = .ok signature) :
    verifies a (.secret bytes) message signature = true := by
  unfold sign at h
  unfold verifies verifier
  split at h
  · cases h
  · next hfamily =>
    have hsame : ¬a.family ≠ (VerifyingKey.secret bytes).family := hfamily
    rw [if_neg hsame]
    cases hhash : a.hash? with
    | none => simp [hhash] at h
    | some v =>
      simp only [hhash, Except.ok.injEq] at h
      simp [Verifier.accepts, h]

/-- Under an algorithm for secrets only a secret makes signatures. -/
theorem exists_secret_of_sign {a : Algorithm} {key : SigningKey} {message signature : List UInt8}
    {random : Nat} (hfamily : a.family = .hmac) (h : sign a key random message = .ok signature) :
    ∃ bytes, key = .secret bytes := by
  unfold sign at h
  split at h
  · cases h
  · next hkey =>
    rw [hfamily] at hkey
    cases key with
    | secret bytes => exact ⟨bytes, rfl⟩
    | rsaEncoded bytes => exact absurd nofun hkey
    | ecEncoded bytes => exact absurd nofun hkey

end Token.Signature

/-! ## Tokens -/

namespace JwtAuthenticator

variable {a : JwtAuthenticator} {random : Nat} {c : Claims} {token : String}

/-- The segments of an issued token, its signature being what it is. -/
def issued (a : JwtAuthenticator) (c : Claims) (signature : List UInt8) : Compact :=
  ⟨(Header.new a.algorithm a.keyId).toSegment, Payload.toSegment c.toPayload,
    Base64.encode .url signature⟩

theorem header_issued (a : JwtAuthenticator) (c : Claims) (signature : List UInt8) :
    (a.issued c signature).header = (Header.new a.algorithm a.keyId).toSegment := by
  rw [issued]

theorem payload_issued (a : JwtAuthenticator) (c : Claims) (signature : List UInt8) :
    (a.issued c signature).payload = Payload.toSegment c.toPayload := by
  rw [issued]

theorem signature_issued (a : JwtAuthenticator) (c : Claims) (signature : List UInt8) :
    (a.issued c signature).signature = Base64.encode .url signature := by
  rw [issued]

/-- What is signed when a token is issued. -/
def signedMessage (a : JwtAuthenticator) (c : Claims) : List UInt8 :=
  Compact.messageBytes
    ⟨(Header.new a.algorithm a.keyId).toSegment, Payload.toSegment c.toPayload, []⟩

/-- The signature is no part of what is signed. -/
theorem messageBytes_issued (a : JwtAuthenticator) (c : Claims) (signature : List UInt8) :
    (a.issued c signature).messageBytes = a.signedMessage c := by
  simp only [signedMessage, Compact.messageBytes, Compact.message, header_issued, payload_issued]

/-- A token is issued if there is a key for its header that signs. -/
theorem createIdentity_eq_ok_iff :
    a.createIdentity random c = .ok token ↔
      ∃ pair key signature, a.resolve (.new a.algorithm a.keyId) = .ok pair ∧
        pair.signing = some key ∧
        Signature.sign a.algorithm key random (a.signedMessage c) = .ok signature ∧
        token = (a.issued c signature).toText := by
  rw [createIdentity, Except.bind_eq_ok_iff]
  constructor
  · rintro ⟨pair, hpair, h⟩
    dsimp only at h
    split at h
    · cases h
    · next key hkey =>
      split at h
      · next signature hsign =>
        exact ⟨pair, key, signature, hpair, hkey, hsign, (Except.ok.inj h).symm⟩
      · cases h
  · rintro ⟨pair, key, signature, hpair, hkey, hsign, rfl⟩
    rw [signedMessage] at hsign
    exact ⟨pair, hpair, by simp only [hkey, hsign, issued]⟩

/-- An issued token is taken apart into its segments. -/
theorem ofText?_issued (a : JwtAuthenticator) (c : Claims) (signature : List UInt8) :
    Compact.ofText? (a.issued c signature).toText = some (a.issued c signature) := by
  apply Compact.ofText?_toText
  · rw [payload_issued, Payload.toSegment]
    exact Base64.dot_notMem_encode _ _
  · rw [signature_issued]
    exact Base64.dot_notMem_encode _ _

/-- A token issued with a secret can be trusted by who issued it. -/
theorem trusts_issued {pair : KeyPair} {key : SigningKey} {signature : List UInt8}
    (hfamily : a.algorithm.family = .hmac)
    (hpair : a.resolve (.new a.algorithm a.keyId) = .ok pair) (hkey : pair.signing = some key)
    (hsign : Signature.sign a.algorithm key random (a.signedMessage c) = .ok signature) :
    a.policy.Trusts (a.issued c signature) := by
  obtain ⟨bytes, rfl⟩ := Token.Signature.exists_secret_of_sign hfamily hsign
  have hagree : pair.verifying = .secret bytes := pair.agree _ hkey
  have hverifies := Token.Signature.verifies_of_sign hsign
  refine ⟨.new a.algorithm a.keyId, pair.verifying, ?_, rfl, ?_, signature, ?_, ?_⟩
  · rw [header_issued, Header.ofSegment?_toSegment]
  · change (a.resolve _).map KeyPair.verifying = _
    rw [hpair]
    rfl
  · rw [signature_issued, Base64.decode?_encode]
  · rw [hagree, messageBytes_issued]
    exact hverifies

/-- Who issued a token with a secret accepts it by its payload. -/
theorem authenticateToken_issued (hfamily : a.algorithm.family = .hmac)
    (hissue : a.createIdentity random c = .ok token) (now : Instant) :
    a.authenticateToken now token = a.policy.accept now (Payload.toSegment c.toPayload) := by
  obtain ⟨pair, key, signature, hpair, hkey, hsign, rfl⟩ := createIdentity_eq_ok_iff.mp hissue
  rw [a.authenticateToken_eq, Policy.authenticate_of_trusts (ofText?_issued a c signature)
    (trusts_issued hfamily hpair hkey hsign), payload_issued]

/-- Nothing but the payload of the claims gets into a token. -/
theorem createIdentity_congr {d : Claims} (h : c.toPayload = d.toPayload) :
    a.createIdentity random c = a.createIdentity random d := by
  rw [createIdentity, createIdentity, h]

end JwtAuthenticator

end BearerAuth
