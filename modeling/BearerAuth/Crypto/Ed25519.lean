import BearerAuth.Crypto.Modular
import BearerAuth.Crypto.Sha2

/-!
# Signatures over the Edwards curve

Verification over the curve `y² - x² = 1 + d x² y²` of the field with `2 ^ 255 - 19` elements.
Numbers are written with the lowest byte first.  A key is a second coordinate with the parity of the
first coordinate in the highest bit; it is not asked that the coordinate is below the order of the
field.  A signature is accepted if the point that it begins with is, byte for byte, the one that
key, message and the rest of the signature give.
-/

namespace BearerAuth.Ed25519

open Sha2 (digest natOfBytes bytesOfNat)

/-- The order of the field. -/
def p : Nat := 2 ^ 255 - 19

/-- The constant of the equation. -/
def d : Nat := 37095705934669439343138083508754565189542113879843219016388785533085940283555

/-- The order of the generator. -/
def order : Nat := 2 ^ 252 + 27742317777372353535851937790883648493

/-- A number whose square is the negative of one. -/
def imaginary : Nat :=
  19681161376707505956807079304988542015446066515923890162744021073123829784752

/-- Whether two numbers are the coordinates of a point: `x² (d y² + 1) = y² - 1`. -/
def holds (x y : Nat) : Bool := x * x * (d * (y * y) + 1) % p = (y * y + (p - 1)) % p

/-- The opposite of a first coordinate is one as well. -/
theorem holds_opposite {x y : Nat} (h : holds x y = true) : holds (Modular.sub 0 x p) y = true := by
  simp only [holds, decide_eq_true_eq] at h ⊢
  rw [← h, Nat.mul_mod, Modular.opposite_mul_self (by decide), ← Nat.mul_mod]

/-- A point of the curve. -/
structure Point where
  /-- First coordinate. -/
  x : Nat
  /-- Second coordinate. -/
  y : Nat
  /-- The equation holds. -/
  onCurve : holds x y = true
  deriving DecidableEq, Repr

/-- The point with the opposite first coordinate. -/
def Point.opposite (a : Point) : Point := ⟨Modular.sub 0 a.x p, a.y, holds_opposite a.onCurve⟩

/-- The generator. -/
def generator : Point where
  x := 15112221349535400772501151409588531511454012693041857206046113283949847762202
  y := 46316835694926478169428394003475163141307993866256225615783033603165251855960
  onCurve := by decide +kernel

/-! ## Sums -/

/-- A point by two quotients of one divisor. -/
structure Projective where
  /-- First dividend. -/
  x : Nat
  /-- Second dividend. -/
  y : Nat
  /-- The divisor. -/
  z : Nat

/-- A point, with the divisor one. -/
def Point.projective (a : Point) : Projective := ⟨a.x, a.y, 1⟩

namespace Projective

/-- The neutral point. -/
def zero : Projective := ⟨0, 1, 1⟩

/-- The sum of two points.  The law has no exceptions on this curve. -/
def add (a b : Projective) : Projective :=
  let z := a.z * b.z % p
  let xx := a.x * b.x % p
  let yy := a.y * b.y % p
  let e := d * xx % p * yy % p
  let low := Modular.sub (z * z) e p
  let high := (z * z + e) % p
  let cross := Modular.sub ((a.x + a.y) * (b.x + b.y)) (xx + yy) p
  ⟨z * low % p * cross % p, z * high % p * (xx + yy) % p, low * high % p⟩

/-- A multiple of a point. -/
def multiply (k : Nat) (a : Projective) : Projective :=
  if k = 0 then zero else
    let half := multiply (k / 2) (a.add a)
    if k % 2 = 1 then a.add half else half
termination_by k
decreasing_by omega

/-- The bytes of a point: its second coordinate, and the parity of the first in the highest bit. -/
def encode (a : Projective) : List UInt8 :=
  let w := Modular.inverse a.z p
  (bytesOfNat 32 (a.y * w % p + a.x * w % p % 2 * 2 ^ 255)).reverse

end Projective

/-! ## Points as bytes -/

/-- The number that some bytes stand for, the lowest first. -/
def numberOf (bytes : List UInt8) : Nat := natOfBytes bytes.reverse

/-- The number whose square is the quotient `u / v`, up to a factor `imaginary`, if there is one. -/
def root (u v : Nat) : Nat :=
  let v₃ := v * v % p * v % p
  u * v₃ % p * Modular.powMod (u * v₃ % p * (v₃ * v % p) % p) ((p - 5) / 8) p % p

/-- The point over `y` whose first coordinate is even, if any point is over it. -/
def Point.over? (y : Nat) : Option Point :=
  let r := root ((y * y + (p - 1)) % p) ((d * (y * y) + 1) % p)
  let r := if holds r y then r else r * imaginary % p
  let x := if r % 2 = 0 then r else (p - r) % p
  if h : holds x y = true then some ⟨x, y, h⟩ else none

/-- The point that some bytes stand for. -/
def Point.ofBytes? (bytes : List UInt8) : Option Point :=
  (over? (numberOf bytes % 2 ^ 255 % p)).map fun a ↦
    if numberOf bytes < 2 ^ 255 then a else a.opposite

/-! ## Signatures -/

/-- A public key: a point, and the bytes that it was given by. -/
structure PublicKey where
  /-- The bytes. -/
  encoding : List UInt8
  /-- The point. -/
  point : Point
  /-- The bytes stand for the point. -/
  decodes : Point.ofBytes? encoding = some point
  deriving DecidableEq, Repr

/-- The key that some bytes stand for.  What follows the first 32 bytes is not looked at. -/
def PublicKey.ofBytes? (bytes : List UInt8) : Option PublicKey :=
  if bytes.length < 32 then none
  else match h : Point.ofBytes? (bytes.take 32) with
    | some point => some ⟨bytes.take 32, point, h⟩
    | none => none

/-- Whether a signature is that of a message. -/
def verify (key : PublicKey) (message signature : List UInt8) : Bool :=
  let commitment := signature.take 32
  let s := numberOf (signature.drop 32)
  if signature.length = 64 ∧ s < order then
    let k := numberOf (digest Sha2.sha512 (commitment ++ key.encoding ++ message)) % order
    let p := Projective.multiply s generator.projective
    let q := Projective.multiply k key.point.opposite.projective
    (p.add q).encode = commitment
  else false

end BearerAuth.Ed25519
