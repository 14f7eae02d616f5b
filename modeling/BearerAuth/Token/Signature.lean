import BearerAuth.Key.Encoded
import BearerAuth.Token.Fault

/-!
# Signatures of tokens

A key signs and verifies under the algorithms of its family only.
-/

namespace BearerAuth.Token

/-- The curve of an algorithm. -/
def Algorithm.curve? : Algorithm → Option Ecdsa.Curve
  | .es256 => some Ecdsa.p256
  | .es384 => some Ecdsa.p384
  | _ => none

/-- Whether an algorithm is RSA in the probabilistic way. -/
def Algorithm.salted : Algorithm → Bool
  | .ps256 | .ps384 | .ps512 => true
  | _ => false

namespace Signature

/-- The salt of a signature, drawn from a random number. -/
def salt (v : Sha2.Variant) (random : Nat) : List UInt8 := Sha2.bytesOfNat v.digestBytes random

/-- The signature of a message. -/
def sign (a : Algorithm) (key : SigningKey) (random : Nat) (message : List UInt8) :
    Except Fault (List UInt8) :=
  if a.family ≠ key.family then .error .algorithm else
    match a.hash?, key with
    | some v, .secret bytes => .ok (Sha2.hmac v bytes message)
    | some v, .rsaEncoded bytes =>
      match Rsa.PrivateKey.ofBytes? bytes with
      | none => .error .rsaKey
      | some key =>
        let signature := if a.salted then Rsa.signSalted? v key (salt v random) message
          else Rsa.signFixed? v key message
        match signature with
        | some s => .ok s
        | none => .error .rsaSigning
    | some _, .ecEncoded bytes =>
      match a.curve? with
      | none => .error .algorithm
      | some curve =>
        match (curve.privateKey? bytes).bind (Ecdsa.sign? curve · message) with
        | some s => .ok s
        | none => .error .ecKey
    | none, _ => .error .signing

/-- A key that is ready to verify under an algorithm. -/
inductive Verifier where
  /-- A shared secret. -/
  | secret (v : Sha2.Variant) (bytes : List UInt8)
  /-- An RSA key and whether signatures are probabilistic; `none` if the key did not decode. -/
  | rsa (v : Sha2.Variant) (salted : Bool) (key : Option Rsa.PublicKey)
  /-- A point of a curve. -/
  | ec (curve : Ecdsa.Curve) (point : Nat × Nat)
  /-- A key of the Edwards curve. -/
  | ed (key : Ed25519.PublicKey)

/-- Makes a key ready to verify under an algorithm.  The point of a key of a curve is decoded at
this time. -/
def verifier (a : Algorithm) (key : VerifyingKey) : Except Fault Verifier :=
  if a.family ≠ key.family then .error .keyFormat else
    match a.hash?, key with
    | some v, .secret bytes => .ok (.secret v bytes)
    | some v, .rsaEncoded bytes => .ok (.rsa v a.salted (Rsa.PublicKey.ofBytes? bytes))
    | some v, .rsa key => .ok (.rsa v a.salted (some key))
    | some _, .ec bytes =>
      match a.curve? with
      | none => .error .algorithm
      | some curve =>
        match curve.point? bytes with
        | some point => .ok (.ec curve point)
        | none => .error .ecKey
    | none, .ed bytes =>
      match Ed25519.PublicKey.ofBytes? bytes with
      | some key => .ok (.ed key)
      | none => .error .edKey
    | _, _ => .error .keyFormat

/-- Whether a signature is that of a message. -/
def Verifier.accepts (message signature : List UInt8) : Verifier → Bool
  | .secret v bytes => Sha2.hmac v bytes message = signature
  | .rsa _ _ none => false
  | .rsa v false (some key) => Rsa.verifyFixed v key message signature
  | .rsa v true (some key) => Rsa.verifySalted v key message signature
  | .ec curve point => Ecdsa.verify curve point message signature
  | .ed key => Ed25519.verify key message signature

/-- Whether a signature is that of a message under an algorithm and a key. -/
def verifies (a : Algorithm) (key : VerifyingKey) (message signature : List UInt8) : Bool :=
  match verifier a key with
  | .ok v => v.accepts message signature
  | .error _ => false

end Signature

end BearerAuth.Token
