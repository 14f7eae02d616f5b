import BearerAuth.Crypto.Modular
import BearerAuth.Crypto.Sha2

/-!
# Elliptic curve signatures

Signatures over the two curves with 256 and 384 bits.  The secret number of each signature is
derived from the key and the message, so that signing one message twice gives one signature.
-/

namespace BearerAuth.Ecdsa

open Sha2 (Variant digest hmac natOfBytes bytesOfNat)

/-- A curve `y² = x³ - 3x + b` over a prime field, with a point that generates a group of prime
order. -/
structure Curve where
  /-- How many bytes a coordinate has. -/
  bytes : Nat
  /-- The order of the field. -/
  p : Nat
  /-- The constant of the equation. -/
  b : Nat
  /-- First coordinate of the generator. -/
  gx : Nat
  /-- Second coordinate of the generator. -/
  gy : Nat
  /-- The order of the generator. -/
  n : Nat
  /-- The hash that signatures use. -/
  hash : Variant

/-- The curve with 256 bits. -/
def p256 : Curve where
  bytes := 32
  p := 2 ^ 256 - 2 ^ 224 + 2 ^ 192 + 2 ^ 96 - 1
  b := 0x5ac635d8aa3a93e7b3ebbd55769886bc651d06b0cc53b0f63bce3c3e27d2604b
  gx := 0x6b17d1f2e12c4247f8bce6e563a440f277037d812deb33a0f4a13945d898c296
  gy := 0x4fe342e2fe1a7f9b8ee7eb4a7c0f9e162bce33576b315ececbb6406837bf51f5
  n := 0xffffffff00000000ffffffffffffffffbce6faada7179e84f3b9cac2fc632551
  hash := Sha2.sha256

/-- The curve with 384 bits. -/
def p384 : Curve where
  bytes := 48
  p := 2 ^ 384 - 2 ^ 128 - 2 ^ 96 + 2 ^ 32 - 1
  b := 0xb3312fa7e23ee7e4988e056be3f82d19181d9c6efe8141120314088f5013875ac656398d8a2ed19d2a85c8edd3ec2aef
  gx := 0xaa87ca22be8b05378eb1c71ef320ad746e1d3b628ba79b9859f741e082542a385502f25dbf55296c3a545e3872760ab7
  gy := 0x3617de4a96262c6f5d9e98bf9292dc29f8f41dbd289a147ce9da3113b5f0b8c00a60b1ce1d7e819d7a431d7c90ea0e5f
  n := 0xffffffffffffffffffffffffffffffffffffffffffffffffc7634d81f4372ddf581a0db248b0a77aecec196accc52973
  hash := Sha2.sha384

/-- A point of a curve. -/
inductive Point where
  /-- The neutral point. -/
  | infinity
  /-- A point with coordinates. -/
  | affine (x y : Nat)
  deriving DecidableEq, Repr

namespace Curve

/-- The right side of the equation. -/
def cubic (c : Curve) (x : Nat) : Nat := (x * x * x + (c.p - 3) * x + c.b) % c.p

/-- Whether two numbers are the coordinates of a point. -/
def holds (c : Curve) (x y : Nat) : Bool := x < c.p && y < c.p && y * y % c.p = c.cubic x

/-- The third point on the line through a point of slope `slope` and a point over `x`, mirrored. -/
def chord (c : Curve) (slope x₁ y₁ x₂ : Nat) : Point :=
  let x := Modular.sub (slope * slope) (x₁ + x₂) c.p
  .affine x (Modular.sub (slope * Modular.sub x₁ x c.p) y₁ c.p)

/-- Twice a point. -/
def double (c : Curve) : Point → Point
  | .infinity => .infinity
  | .affine x y =>
    if y = 0 then .infinity
    else c.chord ((3 * x * x + (c.p - 3)) * Modular.inverse (2 * y) c.p % c.p) x y x

/-- The sum of two points. -/
def add (c : Curve) : Point → Point → Point
  | .infinity, q => q
  | p, .infinity => p
  | .affine x₁ y₁, .affine x₂ y₂ =>
    if x₁ = x₂ then if y₁ = y₂ then c.double (.affine x₁ y₁) else .infinity
    else
      let slope := Modular.sub y₂ y₁ c.p * Modular.inverse (Modular.sub x₂ x₁ c.p) c.p % c.p
      c.chord slope x₁ y₁ x₂

/-- A multiple of a point. -/
def multiply (c : Curve) (k : Nat) (p : Point) : Point :=
  if k = 0 then .infinity else
    let half := multiply c (k / 2) (c.double p)
    if k % 2 = 1 then c.add half p else half
termination_by k
decreasing_by omega

/-- The generator. -/
def generator (c : Curve) : Point := .affine c.gx c.gy

/-! ## Points as bytes -/

/-- The point over `x` whose second coordinate has the given parity. -/
def lift? (c : Curve) (x : Nat) (odd : Bool) : Option (Nat × Nat) :=
  let y := Modular.powMod (c.cubic x) ((c.p + 1) / 4) c.p
  let y := if (y % 2 = 1) = odd then y else (c.p - y) % c.p
  if c.holds x y then some (x, y) else none

/-- The point that some bytes stand for: both coordinates behind a four, or the first coordinate
behind a two or three that gives the parity of the second, or behind a five if the second is the
smaller of the two. -/
def point? (c : Curve) : List UInt8 → Option (Nat × Nat)
  | [] => none
  | tag :: rest =>
    if tag = 4 then
      if rest.length = 2 * c.bytes then
        let x := natOfBytes (rest.take c.bytes)
        let y := natOfBytes (rest.drop c.bytes)
        if c.holds x y then some (x, y) else none
      else none
    else if rest.length = c.bytes then
      let x := natOfBytes rest
      if tag = 2 then c.lift? x false
      else if tag = 3 then c.lift? x true
      else if tag = 5 then (c.lift? x false).map fun (x, y) ↦ (x, min y (c.p - y))
      else none
    else none

end Curve

/-! ## Signatures -/

/-- The number that a digest stands for: its first bits, as many as the order of the group has. -/
def messageNumber (c : Curve) (message : List UInt8) : Nat :=
  natOfBytes ((digest c.hash message).take c.bytes)

/-- The next secret numbers drawn from a keyed hash, of which the first in range counts. -/
def drawSecret (c : Curve) (key state : List UInt8) : (tries : Nat) → Nat
  | 0 => 1
  | tries + 1 =>
    let state := hmac c.hash key state
    let k := natOfBytes (state.take c.bytes)
    if 0 < k ∧ k < c.n then k
    else
      let key := hmac c.hash key (state ++ [0x00])
      drawSecret c key (hmac c.hash key state) tries

/-- The secret number of the signature of a message, derived from the key and the message. -/
def deriveSecret (c : Curve) (d : Nat) (message : List UInt8) : Nat :=
  let seed := bytesOfNat c.bytes d ++ bytesOfNat c.bytes (messageNumber c message % c.n)
  let state := List.replicate c.hash.digestBytes (0x01 : UInt8)
  let key := List.replicate c.hash.digestBytes (0x00 : UInt8)
  let key := hmac c.hash key (state ++ 0x00 :: seed)
  let state := hmac c.hash key state
  let key := hmac c.hash key (state ++ 0x01 :: seed)
  drawSecret c key (hmac c.hash key state) 64

/-- The signature of a message: two numbers, one after the other. -/
def sign? (c : Curve) (d : Nat) (message : List UInt8) : Option (List UInt8) :=
  let k := deriveSecret c d message
  match c.multiply k c.generator with
  | .infinity => none
  | .affine x _ =>
    let r := x % c.n
    let s := Modular.inverse k c.n * (messageNumber c message + r * d) % c.n
    if r = 0 ∨ s = 0 then none else some (bytesOfNat c.bytes r ++ bytesOfNat c.bytes s)

/-- Whether a signature is that of a message. -/
def verify (c : Curve) (point : Nat × Nat) (message signature : List UInt8) : Bool :=
  let r := natOfBytes (signature.take c.bytes)
  let s := natOfBytes (signature.drop c.bytes)
  if signature.length = 2 * c.bytes && 0 < r && r < c.n && 0 < s && s < c.n then
    let w := Modular.inverse s c.n
    let p := c.multiply (messageNumber c message * w % c.n) c.generator
    let q := c.multiply (r * w % c.n) (.affine point.1 point.2)
    match c.add p q with
    | .infinity => false
    | .affine x _ => x % c.n = r
  else false

end BearerAuth.Ecdsa
