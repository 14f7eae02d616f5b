import BearerAuth.Binary64.Basic

/-!
# Shortest decimal digits

The decimal that is written for a finite number has the fewest digits that still read back as that
number, and of the decimals with that many digits it is the nearest one.  The decimals that read
back form an interval around the number, whose ends belong to it when the significand is even; if
a grid of decimals has a point in that interval, one of the two grid points next to the number is
such a point, so only these two are tried, for one digit, then two, and so on.
-/

namespace BearerAuth

/-- The decimal `digits · 10 ^ exponent`. -/
structure Decimal where
  /-- The digits, as one number. -/
  digits : Nat
  /-- The power of ten that the last digit counts. -/
  exponent : Int
  deriving DecidableEq, Repr

namespace Decimal

/-- How many digits stand before the decimal point of `num / den`, both positive: the `p` with
`10 ^ (p - 1) ≤ num / den < 10 ^ p`. -/
def pointOf (num den : Nat) : Int :=
  if den ≤ num then ((num / den).repr.length : Int)
  else 1 - (((den - 1) / num).repr.length : Int)

/-- `a / b < c / d`, the denominators being positive. -/
def fractionLt (a b c d : Nat) : Bool := a * d < c * b

/-- An interval of fractions around a value, all over one denominator. -/
structure Interval where
  /-- The lower end. -/
  low : Nat
  /-- The value. -/
  mid : Nat
  /-- The upper end. -/
  high : Nat
  /-- The common denominator. -/
  den : Nat
  /-- Whether the ends belong to the interval. -/
  closed : Bool

/-- The interval of what rounds to `m · 2 ^ e`.  Below a power of two the numbers lie twice as
dense, so the lower end is nearer there. -/
def Interval.ofParts (m : Nat) (e : Int) : Interval :=
  let unit := 2 ^ (e - 2).toNat
  { low := (4 * m - if m = 2 ^ 52 ∧ -1074 < e then 1 else 2) * unit
    mid := 4 * m * unit
    high := (4 * m + 2) * unit
    den := 2 ^ (2 - e).toNat
    closed := m % 2 = 0 }

/-- Whether the fraction `num / den` lies in the interval. -/
def Interval.contains (i : Interval) (num den : Nat) : Bool :=
  if i.closed then !fractionLt num den i.low i.den && !fractionLt i.high i.den num den
  else fractionLt i.low i.den num den && fractionLt num den i.high i.den

/-- The point of the interval on the grid of multiples of `10 ^ k`, if there is one: of the two
grid points next to the value the nearer, on a tie the even one. -/
def gridPoint? (i : Interval) (k : Int) : Option Nat :=
  let up := 10 ^ k.toNat
  let down := 10 ^ (-k).toNat
  -- the value over the grid's step is `num / den`
  let num := i.mid * down
  let den := i.den * up
  let below := num / den
  let hit (d : Nat) := i.contains (d * up) down
  match hit below, hit (below + 1) with
  | false, false => none
  | true, false => some below
  | false, true => some (below + 1)
  | true, true =>
    if 2 * (num % den) < den then some below
    else if den < 2 * (num % den) then some (below + 1)
    else some (below + below % 2)

/-- The first hit with `count` digits or more; with `more` further grids to try. -/
def search (i : Interval) (point : Int) (count : Nat) : (more : Nat) → Decimal
  | 0 => ⟨i.mid * 10 ^ (count - point).toNat / (i.den * 10 ^ (point - count).toNat), point - count⟩
  | more + 1 =>
    match gridPoint? i (point - count) with
    | some digits => ⟨digits, point - count⟩
    | none => search i point (count + 1) more

/-- Zeros at the end of the digits go into the exponent. -/
def trim (digits : Nat) (exponent : Int) : (more : Nat) → Decimal
  | 0 => ⟨digits, exponent⟩
  | more + 1 =>
    if digits ≠ 0 ∧ digits % 10 = 0 then trim (digits / 10) (exponent + 1) more
    else ⟨digits, exponent⟩

/-- The shortest decimal that reads back as `m · 2 ^ e`; seventeen digits always suffice. -/
def shortest (m : Nat) (e : Int) : Decimal :=
  if m = 0 then ⟨0, 0⟩ else
    let i := Interval.ofParts m e
    let d := search i (pointOf i.mid i.den) 1 17
    trim d.digits d.exponent 20

/-- How many digits stand before the point when the decimal is written without an exponent; not
positive when it starts with `0.0…`. -/
def point (d : Decimal) : Int := (d.digits.repr.length : Int) + d.exponent

/-- The decimal without an exponent, always with a point. -/
def positional (d : Decimal) : String :=
  let text := d.digits.repr
  if 0 ≤ d.exponent then text ++ "".pushn '0' d.exponent.toNat ++ ".0"
  else if 0 < d.point then
    String.ofList (text.toList.take d.point.toNat) ++ "." ++
      String.ofList (text.toList.drop d.point.toNat)
  else "0." ++ "".pushn '0' (-d.point).toNat ++ text

/-- The decimal with one digit before the point and a signed exponent; a single digit stands
without a point. -/
def scientific (d : Decimal) : String :=
  let power := d.point - 1
  let text := match d.digits.repr.toList with
    | [c] => String.ofList [c]
    | c :: rest => String.ofList (c :: '.' :: rest)
    | [] => ""
  text ++ (if power < 0 then "e-" else "e+") ++ power.natAbs.repr

end Decimal

end BearerAuth
