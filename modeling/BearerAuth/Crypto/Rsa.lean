import BearerAuth.Crypto.Modular
import BearerAuth.Crypto.Sha2

/-!
# RSA signatures

Two ways to turn a digest into a number below the modulus: the older one, which is fixed by the
digest, and the probabilistic one, which takes a salt as long as the digest.  Signing raises that
number to the private exponent, verification raises the signature to the public exponent and checks
what comes out.
-/

namespace BearerAuth.Rsa

open Sha2 (Variant digest natOfBytes bytesOfNat)

/-- A public key. -/
structure PublicKey where
  /-- The modulus. -/
  modulus : Nat
  /-- The public exponent. -/
  exponent : Nat
  deriving DecidableEq, Repr

/-- A private key with two primes. -/
structure PrivateKey where
  /-- The public part. -/
  toPublic : PublicKey
  /-- The private exponent. -/
  exponent : Nat
  /-- The first prime. -/
  prime1 : Nat
  /-- The second prime. -/
  prime2 : Nat
  deriving DecidableEq, Repr

/-- How many bits a number has. -/
def bitLength (n : Nat) : Nat := if n = 0 then 0 else n.log2 + 1

namespace PublicKey

/-- How many bytes a signature has. -/
def size (k : PublicKey) : Nat := (bitLength k.modulus + 7) / 8

/-- Whether a key is fit for use: an odd modulus of at most 4096 bits, and an odd exponent from
two to `2 ^ 33 - 1` that is below the modulus. -/
def usable (k : PublicKey) : Bool :=
  bitLength k.modulus ≤ 4096 && k.modulus % 2 = 1 && k.exponent % 2 = 1 && 2 ≤ k.exponent &&
    k.exponent < 2 ^ 33 && k.exponent < k.modulus

end PublicKey

/-- Whether the parts of a private key fit together. -/
def PrivateKey.usable (k : PrivateKey) : Bool :=
  let fits (p : Nat) := 1 < p && (k.toPublic.exponent * k.exponent) % (p - 1) = 1 % (p - 1)
  k.toPublic.usable && k.prime1 * k.prime2 = k.toPublic.modulus && fits k.prime1 && fits k.prime2

/-! ## Encodings of a digest -/

/-- The bytes that name a hash in front of its digest. -/
def digestInfo (v : Variant) : List UInt8 :=
  let tag : UInt8 := if v.digestBytes = 32 then 1 else if v.digestBytes = 48 then 2 else 3
  let n := UInt8.ofNat v.digestBytes
  [0x30, 17 + n, 0x30, 0x0d, 0x06, 0x09, 0x60, 0x86, 0x48, 0x01, 0x65, 0x03, 0x04, 0x02, tag,
    0x05, 0x00, 0x04, n]

/-- The fixed encoding of a digest in `size` bytes, if they are enough. -/
def fixedEncoding? (v : Variant) (size : Nat) (message : List UInt8) : Option (List UInt8) :=
  let t := digestInfo v ++ digest v message
  if size < t.length + 11 then none
  else some (0x00 :: 0x01 :: List.replicate (size - t.length - 3) 0xff ++ 0x00 :: t)

/-- Bytes derived from a seed, as many as asked for. -/
def mask (v : Variant) (seed : List UInt8) (count : Nat) : List UInt8 :=
  let blocks := (count + v.digestBytes - 1) / v.digestBytes
  ((List.range blocks).flatMap fun i ↦ digest v (seed ++ bytesOfNat 4 i)).take count

/-- Two lists of bytes, combined bit by bit. -/
def xorBytes (a b : List UInt8) : List UInt8 := List.zipWith (· ^^^ ·) a b

/-- The bytes with their first `count` bits set to zero; at most eight. -/
def clearBits (count : Nat) : List UInt8 → List UInt8
  | b :: rest => UInt8.ofNat (b.toNat % 2 ^ (8 - count)) :: rest
  | [] => []

/-- The hash of a message's digest with a salt. -/
def saltedDigest (v : Variant) (message salt : List UInt8) : List UInt8 :=
  digest v (List.replicate 8 0 ++ digest v message ++ salt)

/-- The probabilistic encoding of a digest in `bits` bits, if they are enough. -/
def saltedEncoding? (v : Variant) (bits : Nat) (salt message : List UInt8) :
    Option (List UInt8) :=
  let size := (bits + 7) / 8
  if size < v.digestBytes + salt.length + 2 then none else
    let h := saltedDigest v message salt
    let db := List.replicate (size - salt.length - v.digestBytes - 2) 0 ++ 0x01 :: salt
    let masked := clearBits (8 * size - bits) (xorBytes db (mask v h db.length))
    some (masked ++ h ++ [0xbc])

/-- Whether some bytes are a probabilistic encoding of a digest in `bits` bits, with a salt as long
as the digest. -/
def isSaltedEncoding (v : Variant) (bits : Nat) (encoded message : List UInt8) : Bool :=
  let size := (bits + 7) / 8
  let dbSize := size - v.digestBytes - 1
  if size < 2 * v.digestBytes + 2 || encoded.getLast? ≠ some 0xbc then false else
    let masked := encoded.take dbSize
    let h := (encoded.drop dbSize).take v.digestBytes
    let db := clearBits (8 * size - bits) (xorBytes masked (mask v h dbSize))
    let zeros := dbSize - v.digestBytes - 1
    masked = clearBits (8 * size - bits) masked &&
      db.take (zeros + 1) = List.replicate zeros 0 ++ [0x01] &&
      h = saltedDigest v message (db.drop (zeros + 1))

/-! ## Signatures -/

/-- The bytes of a number raised to the private exponent. -/
def signEncoded (k : PrivateKey) (encoded : List UInt8) : List UInt8 :=
  bytesOfNat k.toPublic.size
    (Modular.powMod (natOfBytes encoded) k.exponent k.toPublic.modulus)

/-- The signature of a message in the older way; `none` if the key is unfit. -/
def signFixed? (v : Variant) (k : PrivateKey) (message : List UInt8) : Option (List UInt8) :=
  if k.usable then (fixedEncoding? v k.toPublic.size message).map (signEncoded k) else none

/-- The signature of a message in the probabilistic way; `none` if the key is unfit. -/
def signSalted? (v : Variant) (k : PrivateKey) (salt message : List UInt8) :
    Option (List UInt8) :=
  if k.usable then
    (saltedEncoding? v (bitLength k.toPublic.modulus - 1) salt message).map (signEncoded k)
  else none

/-- The number that a signature of the right length opens to. -/
def recover? (k : PublicKey) (signature : List UInt8) : Option Nat :=
  let s := natOfBytes signature
  if k.usable && signature.length = k.size && s < k.modulus then
    some (Modular.powMod s k.exponent k.modulus)
  else none

/-- Whether a signature made in the older way is that of a message. -/
def verifyFixed (v : Variant) (k : PublicKey) (message signature : List UInt8) : Bool :=
  match recover? k signature with
  | some n => fixedEncoding? v k.size message = some (bytesOfNat k.size n)
  | none => false

/-- Whether a signature made in the probabilistic way is that of a message. -/
def verifySalted (v : Variant) (k : PublicKey) (message signature : List UInt8) : Bool :=
  let bits := bitLength k.modulus - 1
  match recover? k signature with
  | some n => n < 2 ^ (8 * ((bits + 7) / 8)) &&
      isSaltedEncoding v bits (bytesOfNat ((bits + 7) / 8) n) message
  | none => false

end BearerAuth.Rsa
