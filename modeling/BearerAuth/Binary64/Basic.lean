import BearerAuth.Power

/-!
# Binary floating point with 53 bits

The numbers of a claim are the double-width binary floating-point numbers.  A finite one is a sign
with `m · 2 ^ e` for a *canonical* pair: either `m` has all its 53 bits, or `e` is the least
exponent.  Each number then has one representation, and equality is decidable without a bit
pattern.  The two zeros stay apart.

All rounding goes through `Binary64.round`, which takes a quotient of naturals to the nearest
number, a half to the even significand: every operation here computes exactly and rounds once.
-/

namespace BearerAuth

/-- The pairs `m · 2 ^ e` that are the representation of a finite number. -/
def Binary64.Canonical (m : Nat) (e : Int) : Prop :=
  m < 2 ^ 53 ∧ -1074 ≤ e ∧ e ≤ 971 ∧ (2 ^ 52 ≤ m ∨ e = -1074)

instance (m : Nat) (e : Int) : Decidable (Binary64.Canonical m e) :=
  inferInstanceAs (Decidable (_ ∧ _))

/-- A double-width binary floating-point number. -/
inductive Binary64 where
  /-- The number `± m · 2 ^ e`. -/
  | finite (negative : Bool) (significand : Nat) (exponent : Int)
      (canonical : Binary64.Canonical significand exponent)
  /-- One of the two infinities. -/
  | infinite (negative : Bool)
  /-- The value that is not a number. -/
  | nan
  deriving DecidableEq

namespace Binary64

/-- One of the two zeros. -/
def zero (negative : Bool) : Binary64 := .finite negative 0 (-1074) (by decide)

instance : Inhabited Binary64 := ⟨zero false⟩

/-- The number `± m · 2 ^ e`; what is too large for a canonical pair overflows to an infinity. -/
def ofParts (negative : Bool) (m : Nat) (e : Int) : Binary64 :=
  if h : Canonical m e then .finite negative m e h else .infinite negative

/-- The whole number nearest to `num / den`, a half going to the even one. -/
def divHalfEven (num den : Nat) : Nat :=
  let q := num / den
  if 2 * (num % den) < den then q
  else if den < 2 * (num % den) then q + 1
  else q + q % 2

/-- The exponent at which `num / den` is rounded: the one that leaves 53 bits, but never below the
least.  The bit lengths of the two numbers leave a choice of two. -/
def exponentOf (num den : Nat) : Int :=
  let e : Int := max (-1074) ((num.log2 : Int) - den.log2 - 53)
  if num * 2 ^ (-e).toNat < 2 ^ 53 * (den * 2 ^ e.toNat) then e else e + 1

/-- The number nearest to `± num / den`, a half going to the even significand. -/
def round (negative : Bool) (num den : Nat) : Binary64 :=
  if num = 0 then zero negative else
    let e := exponentOf num den
    let m := divHalfEven (num * 2 ^ (-e).toNat) (den * 2 ^ e.toNat)
    if m = 2 ^ 53 then ofParts negative (2 ^ 52) (e + 1) else ofParts negative m e

/-- The number nearest to a whole number. -/
def ofInt (n : Int) : Binary64 := round (n < 0) n.natAbs 1

/-- Whether the number is neither infinite nor no number. -/
def isFinite : Binary64 → Bool
  | .finite .. => true
  | _ => false

/-- Whether the number is below zero; negative zero is not. -/
def isBelowZero : Binary64 → Bool
  | .finite negative m _ _ => negative && m != 0
  | .infinite negative => negative
  | .nan => false

/-- The same number with the other sign. -/
def negate : Binary64 → Binary64
  | .finite negative m e h => .finite (!negative) m e h
  | .infinite negative => .infinite (!negative)
  | .nan => .nan

/-- The distance of a finite number from zero, as numerator and denominator. -/
def magnitude : Binary64 → Option (Nat × Nat)
  | .finite _ m e _ => some (m * 2 ^ e.toNat, 2 ^ (-e).toNat)
  | _ => none

/-- The number times `num / den`, rounded. -/
def scale (x : Binary64) (num den : Nat) : Binary64 :=
  match x with
  | .finite negative m e _ => round negative (m * 2 ^ e.toNat * num) (2 ^ (-e).toNat * den)
  | x => x

/-- The whole number that this is, if it is one; both zeros are. -/
def toInt? : Binary64 → Option Int
  | .finite negative m e _ =>
    let num := m * 2 ^ e.toNat
    let den := 2 ^ (-e).toNat
    if num % den = 0 then some (if negative then -(num / den : Nat) else (num / den : Nat))
    else none
  | _ => none

end Binary64

end BearerAuth
