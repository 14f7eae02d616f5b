import BearerAuth.Proofs.Token.Issued

/-!
# Keys that sign

A key is kept as it stands in its file and read when it is to sign.  Whether it can is then a matter
of its algorithm and of its contents alone (`Token.Algorithm.Honours`): a secret always can, an RSA
key if it is sound and has room for the encoding of a digest, an elliptic curve key if it is one of
the curve that the algorithm names.  The message has no say in this, but for a chance that elliptic
curves leave open: a number of the signature may come out as zero (`Token.Signature.NoZero`).
-/

namespace BearerAuth

open Token (Algorithm)

/-! ## Room for a digest -/

namespace Rsa

variable {v : Sha2.Variant} {k : PrivateKey} {salt message : List UInt8}

/-- Whether a key can sign digests of a hash: it is sound, and there is room for the encoding. -/
structure PrivateKey.Suffices (k : PrivateKey) (v : Sha2.Variant) (salted : Bool) : Prop where
  /-- The parts of the key fit together. -/
  usable : k.usable = true
  /-- The encoding of a digest is not too long. -/
  room : if salted then 2 * v.digestBytes + 2 ≤ (bitLength k.toPublic.modulus - 1 + 7) / 8
    else v.digestBytes + 30 ≤ k.toPublic.size

/-- The fixed encoding takes the name of the hash, the digest and eleven bytes besides. -/
theorem isSome_fixedEncoding?_iff {size : Nat}
    (hv : (Sha2.digest v message).length = v.digestBytes) :
    (fixedEncoding? v size message).isSome = true ↔ v.digestBytes + 30 ≤ size := by
  have hlength : (digestInfo v ++ Sha2.digest v message).length + 11 = v.digestBytes + 30 := by
    rw [List.length_append, hv]
    simp only [digestInfo, List.length_cons, List.length_nil]
    omega
  rw [fixedEncoding?, hlength]
  split
  · next hshort => simpa using hshort
  · next hroom => simpa using hroom

/-- The probabilistic encoding takes a digest, a salt of the same length and two bytes besides. -/
theorem isSome_saltedEncoding?_iff {bits : Nat} (hsalt : salt.length = v.digestBytes) :
    (saltedEncoding? v bits salt message).isSome = true ↔
      2 * v.digestBytes + 2 ≤ (bits + 7) / 8 := by
  rw [saltedEncoding?, hsalt, ← two_mul]
  split
  · next hshort => simpa using hshort
  · next hroom => simpa using hroom

/-- There is a signature in the older way if the key suffices. -/
theorem isSome_signFixed?_iff (hv : (Sha2.digest v message).length = v.digestBytes) :
    (signFixed? v k message).isSome = true ↔ k.Suffices v false := by
  rw [signFixed?]
  split
  · next husable =>
    rw [Option.isSome_map, isSome_fixedEncoding?_iff hv]
    exact ⟨fun hroom ↦ ⟨husable, hroom⟩, PrivateKey.Suffices.room⟩
  · next hunfit => exact iff_of_false nofun fun h ↦ hunfit h.usable

/-- There is a signature in the probabilistic way if the key suffices. -/
theorem isSome_signSalted?_iff (hsalt : salt.length = v.digestBytes) :
    (signSalted? v k salt message).isSome = true ↔ k.Suffices v true := by
  rw [signSalted?]
  split
  · next husable =>
    rw [Option.isSome_map, isSome_saltedEncoding?_iff hsalt]
    exact ⟨fun hroom ↦ ⟨husable, hroom⟩, PrivateKey.Suffices.room⟩
  · next hunfit => exact iff_of_false nofun fun h ↦ hunfit h.usable

end Rsa

namespace Token

variable {a : Algorithm} {random : Nat} {message : List UInt8}

/-! ## Keys of an algorithm -/

namespace Algorithm

/-- An algorithm that has keys to sign with has a hash. -/
theorem exists_hash? {key : SigningKey} (h : a.family = key.family) : ∃ v, a.hash? = some v := by
  cases a with
  | eddsa => cases key <;> cases h
  | _ => exact ⟨_, rfl⟩

/-- A digest has the length that its hash gives it. -/
theorem length_digest {v : Sha2.Variant} (h : a.hash? = some v) (message : List UInt8) :
    (Sha2.digest v message).length = v.digestBytes := by
  rw [Sha2.length_digest]
  cases a <;> cases h <;> rfl

/-- The algorithms with a curve are those of elliptic curve keys. -/
theorem isSome_curve?_iff : a.curve?.isSome = true ↔ a.family = .ec := by cases a <;> decide

/-- Whether a key can make signatures under an algorithm. -/
inductive Honours (a : Algorithm) : SigningKey → Prop
  /-- A secret is for the algorithms that share one. -/
  | secret {bytes : List UInt8} : a.family = .hmac → Honours a (.secret bytes)
  /-- An RSA key is one that can be read and suffices. -/
  | rsa {bytes : List UInt8} {v : Sha2.Variant} {k : Rsa.PrivateKey} : a.family = .rsa →
    a.hash? = some v → Rsa.PrivateKey.ofBytes? bytes = some k → k.Suffices v a.salted →
    Honours a (.rsaEncoded bytes)
  /-- An elliptic curve key is one of the right curve. -/
  | ec {bytes : List UInt8} {curve : Ecdsa.Curve} {d : Nat} : a.curve? = some curve →
    curve.privateKey? bytes = some d → Honours a (.ecEncoded bytes)

/-- A key that can make signatures is one for the algorithm. -/
theorem Honours.family_eq {key : SigningKey} (h : a.Honours key) : a.family = key.family := by
  cases h with
  | secret hfamily => exact hfamily
  | rsa hfamily => exact hfamily
  | ec hcurve => exact isSome_curve?_iff.mp (Option.isSome_of_eq_some hcurve)

/-- No key can make signatures under an Edwards curve. -/
theorem not_honours_of_ed {key : SigningKey} (h : a.family = .ed) : ¬a.Honours key := by
  intro hkey
  have hed : key.family = .ed := hkey.family_eq.symm.trans h
  cases key <;> cases hed

end Algorithm

namespace Signature

/-- Whether no number of the signature of a message comes out as zero.  Only elliptic curves have
such signatures. -/
def NoZero (a : Algorithm) (key : SigningKey) (message : List UInt8) : Prop :=
  ∀ curve bytes d, a.curve? = some curve → key = .ecEncoded bytes →
    curve.privateKey? bytes = some d → (Ecdsa.sign? curve d message).isSome = true

/-- A key does not sign under an algorithm of another family. -/
theorem not_sign_of_family_ne {key : SigningKey} (h : a.family ≠ key.family) :
    ¬∃ s, sign a key random message = .ok s := by
  unfold sign
  rw [if_pos h]
  rintro ⟨s, ⟨⟩⟩

/-- A secret signs under the algorithms that share one. -/
theorem exists_sign_secret_iff {bytes : List UInt8} :
    (∃ s, sign a (.secret bytes) random message = .ok s) ↔ a.family = .hmac := by
  refine ⟨fun h ↦ by_contra fun hfamily ↦ not_sign_of_family_ne hfamily h, fun hfamily ↦ ?_⟩
  have hsame : a.family = (SigningKey.secret bytes).family := hfamily
  obtain ⟨v, hv⟩ := Algorithm.exists_hash? hsame
  refine ⟨Sha2.hmac v bytes message, ?_⟩
  unfold sign
  rw [if_neg (not_not.mpr hsame), hv]

/-- An RSA key signs if it can be read and suffices. -/
theorem exists_sign_rsa_iff {bytes : List UInt8} :
    (∃ s, sign a (.rsaEncoded bytes) random message = .ok s) ↔
      a.family = .rsa ∧ ∃ v k, a.hash? = some v ∧ Rsa.PrivateKey.ofBytes? bytes = some k ∧
        k.Suffices v a.salted := by
  by_cases hfamily : a.family = .rsa
  · have hsame : a.family = (SigningKey.rsaEncoded bytes).family := hfamily
    obtain ⟨v, hv⟩ := Algorithm.exists_hash? hsame
    unfold sign
    rw [if_neg (not_not.mpr hsame), hv]
    cases hkey : Rsa.PrivateKey.ofBytes? bytes with
    | none => simp [hkey]
    | some k =>
      have hsuffices : (if a.salted then Rsa.signSalted? v k (salt v random) message
            else Rsa.signFixed? v k message).isSome = true ↔ k.Suffices v a.salted := by
        cases a.salted with
        | true => exact Rsa.isSome_signSalted?_iff (Sha2.length_bytesOfNat _ _)
        | false => exact Rsa.isSome_signFixed?_iff (Algorithm.length_digest hv message)
      have hright : (a.family = .rsa ∧ ∃ v' k', some v = some v' ∧ some k = some k' ∧
          k'.Suffices v' a.salted) ↔ k.Suffices v a.salted := by
        simp [hfamily]
      rw [hright, ← hsuffices]
      simp only [hkey]
      cases (if a.salted then Rsa.signSalted? v k (salt v random) message
        else Rsa.signFixed? v k message) <;> simp
  · exact iff_of_false (not_sign_of_family_ne hfamily) fun h ↦ hfamily h.1

/-- An elliptic curve key signs if it is one of the right curve and no zero comes out. -/
theorem exists_sign_ec_iff {bytes : List UInt8} :
    (∃ s, sign a (.ecEncoded bytes) random message = .ok s) ↔
      ∃ curve d, a.curve? = some curve ∧ curve.privateKey? bytes = some d ∧
        (Ecdsa.sign? curve d message).isSome = true := by
  by_cases hfamily : a.family = .ec
  · have hsame : a.family = (SigningKey.ecEncoded bytes).family := hfamily
    obtain ⟨v, hv⟩ := Algorithm.exists_hash? hsame
    obtain ⟨curve, hcurve⟩ := Option.isSome_iff_exists.mp (Algorithm.isSome_curve?_iff.mpr hfamily)
    unfold sign
    rw [if_neg (not_not.mpr hsame), hv, hcurve]
    cases hkey : curve.privateKey? bytes with
    | none => simp [hkey]
    | some d =>
      simp only [hkey, Option.bind_some, Option.some.injEq, exists_eq_left', exists_and_left]
      cases Ecdsa.sign? curve d message <;> simp
  · refine iff_of_false (not_sign_of_family_ne hfamily) ?_
    rintro ⟨curve, d, hcurve, -⟩
    exact hfamily (Algorithm.isSome_curve?_iff.mp (Option.isSome_of_eq_some hcurve))

/-- A message is signed just if the key can make signatures and no zero comes out. -/
theorem exists_sign_iff {key : SigningKey} :
    (∃ s, sign a key random message = .ok s) ↔ a.Honours key ∧ NoZero a key message := by
  cases key with
  | secret bytes =>
    rw [exists_sign_secret_iff]
    exact ⟨fun h ↦ ⟨.secret h, nofun⟩, fun ⟨.secret h, _⟩ ↦ h⟩
  | rsaEncoded bytes =>
    rw [exists_sign_rsa_iff]
    exact ⟨fun ⟨hfamily, _, _, hv, hk, hsuffices⟩ ↦ ⟨.rsa hfamily hv hk hsuffices, nofun⟩,
      fun ⟨.rsa hfamily hv hk hsuffices, _⟩ ↦ ⟨hfamily, _, _, hv, hk, hsuffices⟩⟩
  | ecEncoded bytes =>
    rw [exists_sign_ec_iff]
    constructor
    · rintro ⟨curve, d, hcurve, hd, hsome⟩
      refine ⟨.ec hcurve hd, ?_⟩
      rintro curve' bytes' d' hcurve' ⟨⟩ hd'
      obtain rfl : curve = curve' := Option.some.inj (hcurve.symm.trans hcurve')
      obtain rfl : d = d' := Option.some.inj (hd.symm.trans hd')
      exact hsome
    · rintro ⟨⟨⟩ | ⟨⟩ | ⟨hcurve, hd⟩, hzero⟩
      exact ⟨_, _, hcurve, hd, hzero _ _ _ hcurve rfl hd⟩

end Signature

end Token

/-! ## Tokens -/

namespace JwtAuthenticator

variable {a : JwtAuthenticator} {random : Nat} {c : Claims} {pair : KeyPair} {key : SigningKey}

/-- Where a key for signing is found, a token is issued if the key signs it; otherwise it is
reported that it cannot be signed. -/
theorem createIdentity_of_signing (hpair : a.resolve (.new a.algorithm a.keyId) = .ok pair)
    (hkey : pair.signing = some key) :
    a.createIdentity random c =
      match Token.Signature.sign a.algorithm key random (a.signedMessage c) with
      | .ok signature => .ok (a.issued c signature).toText
      | .error _ => .error .signTokenFailed := by
  rw [createIdentity, hpair]
  dsimp only [bind, Except.bind]
  rw [hkey]
  rfl

/-- A token is issued just if the key can make signatures and no zero comes out. -/
theorem exists_createIdentity_iff (hpair : a.resolve (.new a.algorithm a.keyId) = .ok pair)
    (hkey : pair.signing = some key) :
    (∃ token, a.createIdentity random c = .ok token) ↔
      a.algorithm.Honours key ∧ Token.Signature.NoZero a.algorithm key (a.signedMessage c) := by
  have hsign : (∃ s, Token.Signature.sign a.algorithm key random (a.signedMessage c) = .ok s) ↔ _ :=
    Token.Signature.exists_sign_iff
  rw [← hsign, createIdentity_of_signing hpair hkey]
  cases Token.Signature.sign a.algorithm key random (a.signedMessage c) <;> simp

/-- A key that cannot make signatures is reported at each request. -/
theorem createIdentity_of_not_honours (hpair : a.resolve (.new a.algorithm a.keyId) = .ok pair)
    (hkey : pair.signing = some key) (h : ¬a.algorithm.Honours key) :
    a.createIdentity random c = .error .signTokenFailed := by
  rw [createIdentity_of_signing hpair hkey]
  cases hsign : Token.Signature.sign a.algorithm key random (a.signedMessage c) with
  | ok signature => exact absurd (Token.Signature.exists_sign_iff.mp ⟨signature, hsign⟩).1 h
  | error fault => rfl

end JwtAuthenticator

end BearerAuth
