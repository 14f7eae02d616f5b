import BearerAuth.Crypto.Ecdsa
import BearerAuth.Crypto.Ed25519
import BearerAuth.Crypto.Rsa
import BearerAuth.Token.Algorithm

/-!
# Keys

A key for verification is of one family, and so is a key for signing.  Keys from files are kept as
the bytes in the file: they are only read when they are used, so that a file of the right form but
with a wrong content is found out then.
-/

namespace BearerAuth

open Token (Family)

/-- A key that verifies signatures. -/
inductive VerifyingKey where
  /-- A shared secret. -/
  | secret (bytes : List UInt8)
  /-- The encoding of an RSA public key. -/
  | rsaEncoded (bytes : List UInt8)
  /-- An RSA public key. -/
  | rsa (key : Rsa.PublicKey)
  /-- The encoding of a point of an elliptic curve. -/
  | ec (bytes : List UInt8)
  /-- The encoding of a point of an Edwards curve. -/
  | ed (bytes : List UInt8)
  deriving DecidableEq, Repr

/-- A key that makes signatures. -/
inductive SigningKey where
  /-- A shared secret. -/
  | secret (bytes : List UInt8)
  /-- The encoding of an RSA private key. -/
  | rsaEncoded (bytes : List UInt8)
  /-- The encoding of an elliptic curve private key. -/
  | ecEncoded (bytes : List UInt8)
  deriving DecidableEq, Repr

/-- The family of a key. -/
def VerifyingKey.family : VerifyingKey → Family
  | .secret _ => .hmac
  | .rsaEncoded _ | .rsa _ => .rsa
  | .ec _ => .ec
  | .ed _ => .ed

/-- The family of a key. -/
def SigningKey.family : SigningKey → Family
  | .secret _ => .hmac
  | .rsaEncoded _ => .rsa
  | .ecEncoded _ => .ec

/-- Whether a key for signing and a key for verification may stand in one pair.  A secret is shared,
so that there is only one; of other keys no more is known than their family. -/
def SigningKey.Agrees : SigningKey → VerifyingKey → Prop
  | .secret bytes, key => key = .secret bytes
  | .rsaEncoded _, key => key.family = .rsa
  | .ecEncoded _, key => key.family = .ec

/-- What is known of a key: how to verify with it and, unless it only verifies, how to sign. -/
structure KeyPair where
  /-- The half that signs. -/
  signing : Option SigningKey
  /-- The half that verifies. -/
  verifying : VerifyingKey
  /-- The halves belong together. -/
  agree : ∀ key ∈ signing, key.Agrees verifying
  deriving DecidableEq, Repr

namespace KeyPair

/-- A shared secret. -/
def ofSecret (bytes : List UInt8) : KeyPair :=
  ⟨some (.secret bytes), .secret bytes, by rintro _ ⟨⟩; rfl⟩

/-- A pair of encoded RSA keys. -/
def ofRsa (signing verifying : List UInt8) : KeyPair :=
  ⟨some (.rsaEncoded signing), .rsaEncoded verifying, by rintro _ ⟨⟩; rfl⟩

/-- A pair of encoded elliptic curve keys. -/
def ofEc (signing verifying : List UInt8) : KeyPair :=
  ⟨some (.ecEncoded signing), .ec verifying, by rintro _ ⟨⟩; rfl⟩

/-- A key that only verifies. -/
def verifyOnly (key : VerifyingKey) : KeyPair := ⟨none, key, nofun⟩

end KeyPair

end BearerAuth
