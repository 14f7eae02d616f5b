import BearerAuth.Asn1.Der
import BearerAuth.Key.Basic

/-!
# Reading encoded keys

The strict readings that take place when a key is used.
-/

namespace BearerAuth

open Asn1 (Der.element? Der.only? Der.natural? Der.naturals? Der.bits? Der.optional?)

/-- The RSA public key of some bytes: modulus and exponent. -/
def Rsa.PublicKey.ofBytes? (bytes : List UInt8) : Option Rsa.PublicKey := do
  match ← Der.naturals? 2 (← Der.only? 0x30 bytes) with
  | ([n, e], []) => some ⟨n, e⟩
  | _ => none

/-- The RSA private key of some bytes: version zero, which stands for two primes, the key, and
numbers that can be computed from it. -/
def Rsa.PrivateKey.ofBytes? (bytes : List UInt8) : Option Rsa.PrivateKey := do
  match ← Der.naturals? 9 (← Der.only? 0x30 bytes) with
  | ([0, n, e, d, p, q, _, _, _], []) => some ⟨⟨n, e⟩, d, p, q⟩
  | _ => none

namespace Ecdsa

/-- The identifier of elliptic curve keys. -/
def keyId : List UInt8 := [0x2a, 0x86, 0x48, 0xce, 0x3d, 0x02, 0x01]

/-- The identifier of a curve. -/
def Curve.id (c : Curve) : List UInt8 :=
  if c.bytes = 32 then [0x2a, 0x86, 0x48, 0xce, 0x3d, 0x03, 0x01, 0x07]
  else [0x2b, 0x81, 0x04, 0x00, 0x22]

/-- The number that a private key's bytes stand for; short ones are filled up with zeros. -/
def Curve.secretNumber? (c : Curve) (bytes : List UInt8) : Option Nat :=
  let d := Sha2.natOfBytes bytes
  if 24 ≤ bytes.length ∧ bytes.length ≤ c.bytes ∧ 0 < d ∧ d < c.n then some d else none

/-- The inner part of an elliptic curve private key.  A curve or a public key that it names has to
be the right one. -/
def Curve.innerKey? (c : Curve) (bytes : List UInt8) : Option Nat := do
  let (version, rest) ← Der.natural? (← Der.only? 0x30 bytes)
  let (secret, rest) ← Der.element? 0x04 rest
  let (curve, rest) ← Der.optional? 0xa0 rest
  let (point, rest) ← Der.optional? 0xa1 rest
  let d ← c.secretNumber? secret
  let curveFits ← match curve with
    | none => some true
    | some bytes => (Der.only? 0x06 bytes).map (· = c.id)
  let pointFits ← match point with
    | none => some true
    | some bytes => do
      let (bytes, more) ← Der.bits? 0x03 bytes
      let (x, y) ← c.point? bytes
      some (more.isEmpty && c.multiply d c.generator = .affine x y)
  if version = 1 ∧ rest = [] ∧ curveFits ∧ pointFits then some d else none

/-- Whether only elements of a context's own tags are left. -/
def onlyExtensions : (fuel : Nat) → List UInt8 → Bool
  | _, [] => true
  | 0, _ => false
  | fuel + 1, t :: rest =>
    0xa0 ≤ t && t < 0xc0 && match Der.element? t (t :: rest) with
      | some (_, rest) => onlyExtensions fuel rest
      | none => false

/-- The private key of some bytes that name elliptic curve keys, the curve, and hold the key. -/
def Curve.privateKey? (c : Curve) (bytes : List UInt8) : Option Nat := do
  let (version, rest) ← Der.natural? (← Der.only? 0x30 bytes)
  let (algorithm, rest) ← Der.element? 0x30 rest
  let (key, parameters) ← Der.element? 0x06 algorithm
  let curve ← Der.only? 0x06 parameters
  let (inner, rest) ← Der.element? 0x04 rest
  let rest ← if version = 1 then (Der.bits? 0x81 rest).map (·.2) else some rest
  if version ≤ 1 ∧ onlyExtensions rest.length rest ∧ key = keyId ∧ curve = c.id then
    c.innerKey? inner
  else none

end Ecdsa

end BearerAuth
