import BearerAuth.Json.Basic

/-!
# Numbers in JSON texts

A numeral is split into its digits first and then given a value.  A numeral with neither fraction
nor exponent is whole as long as it fits 64 bits.  Otherwise its leading digits are gathered as long
as they fit 64 bits, the digits that no longer fit only shift the decimal point, and the gathered
number is scaled by a power of ten.  The number and the power are each rounded, and so is their
product or quotient: a value may differ from the nearest one in its last bit.
-/

namespace BearerAuth.Json

/-- The parts of a number as written. -/
structure Numeral where
  /-- Whether a minus sign stands in front. -/
  negative : Bool
  /-- The digits before the point. -/
  whole : List Nat
  /-- The digits after the point, if there is one. -/
  fraction : Option (List Nat)
  /-- Whether the exponent is negative, and its digits. -/
  exponent : Option (Bool × List Nat)
  deriving DecidableEq, Repr

namespace Numeral

/-- The value of a decimal digit. -/
def digit? (c : Char) : Option Nat :=
  if '0' ≤ c ∧ c ≤ '9' then some (c.toNat - '0'.toNat) else none

/-- The decimal digits at the start of a text, and what follows them. -/
def digits : List Char → List Nat × List Char
  | [] => ([], [])
  | c :: rest =>
    match digit? c with
    | some d => (d :: (digits rest).1, (digits rest).2)
    | none => ([], c :: rest)

/-- The fraction at the start of a text: a point and at least one digit, or nothing. -/
def lexFraction : List Char → Option (Option (List Nat) × List Char)
  | '.' :: rest =>
    match digits rest with
    | ([], _) => none
    | (ds, rest) => some (some ds, rest)
  | rest => some (none, rest)

/-- The digits of an exponent whose sign has been read. -/
def lexExponentDigits (negative : Bool) (cs : List Char) :
    Option (Option (Bool × List Nat) × List Char) :=
  match digits cs with
  | ([], _) => none
  | (ds, rest) => some (some (negative, ds), rest)

/-- The exponent at the start of a text, or nothing. -/
def lexExponent : List Char → Option (Option (Bool × List Nat) × List Char)
  | c :: rest =>
    if c = 'e' ∨ c = 'E' then
      match rest with
      | '-' :: rest => lexExponentDigits true rest
      | '+' :: rest => lexExponentDigits false rest
      | rest => lexExponentDigits false rest
    else some (none, c :: rest)
  | [] => some (none, [])

/-- The numeral at the start of a text whose sign has been read.  A zero in front stands alone. -/
def lexUnsigned (negative : Bool) (cs : List Char) : Option (Numeral × List Char) := do
  let (whole, rest) ← match digits cs with
    | ([], _) => none
    | (0 :: _ :: _, _) => none
    | found => some found
  let (fraction, rest) ← lexFraction rest
  let (exponent, rest) ← lexExponent rest
  return (⟨negative, whole, fraction, exponent⟩, rest)

/-- The numeral at the start of a text, and what follows it. -/
def lex : List Char → Option (Numeral × List Char)
  | '-' :: rest => lexUnsigned true rest
  | cs => lexUnsigned false cs

/-! ## Values -/

/-- The largest number gathered from digits. -/
def maxGathered : Nat := 2 ^ 64 - 1

/-- Appends digits to a number as long as the result fits 64 bits; also the digits left over. -/
def gather (n : Nat) : List Nat → Nat × List Nat
  | [] => (n, [])
  | d :: rest => if n * 10 + d ≤ maxGathered then gather (n * 10 + d) rest else (n, d :: rest)

/-- The number nearest to a power of ten, which is whole. -/
def powerOfTen (k : Nat) : Nat :=
  match (Binary64.round false (10 ^ k) 1).magnitude with
  | some (num, den) => num / den
  | none => 0

/-- The largest power of ten that is a finite number. -/
def maxPower : Nat := 308

/-- The number `x` times a power of ten; `none` if it overflows.  Powers below the least are taken
in several steps, each rounded. -/
def scaleByTen (x : Binary64) (exponent : Int) : Option Binary64 :=
  if x = .zero false then some x
  else if 0 ≤ exponent then
    if exponent ≤ maxPower then
      let y := x.scale (powerOfTen exponent.toNat) 1
      if y.isFinite then some y else none
    else none
  else if -exponent ≤ maxPower then some (x.scale 1 (powerOfTen (-exponent).toNat))
  else scaleByTen (x.scale 1 (powerOfTen maxPower)) (exponent + maxPower)
termination_by (-exponent).toNat
decreasing_by simp only [maxPower] at *; omega

/-- The number of a list of digits. -/
def ofDigits (ds : List Nat) : Nat := ds.foldl (fun n d ↦ n * 10 + d) 0

/-- The largest exponent that is read; a larger one counts as boundless. -/
def maxExponent : Nat := 2 ^ 31 - 1

/-- The magnitude of a numeral that is not whole: gathered digits, scaled by a power of ten. -/
def floatMagnitude (n : Numeral) : Option Binary64 :=
  let (gathered, dropped) := gather 0 n.whole
  let fraction := n.fraction.getD []
  let (gathered, unread) := gather gathered fraction
  let shift : Int := dropped.length - (fraction.length - unread.length : Nat)
  let x := Binary64.round false gathered 1
  match n.exponent with
  | none => scaleByTen x shift
  | some (negative, ds) =>
    let e := ofDigits ds
    if e ≤ maxExponent then scaleByTen x (if negative then shift - e else shift + e)
    else if gathered = 0 ∨ negative then some (.zero false)
    else none

/-- The value of a numeral; `none` if it is out of range.  Minus zero has no whole representation,
and neither has what does not fit 64 bits. -/
def value (n : Numeral) : Option Number :=
  let float := n.floatMagnitude.map fun x ↦ .float (if n.negative then x.negate else x)
  match n.fraction, n.exponent with
  | none, none =>
    let m := ofDigits n.whole
    if n.negative then
      if 0 < m ∧ m ≤ 2 ^ 63 then some (.integer (-m)) else float
    else if m ≤ maxGathered then some (.integer m) else float
  | _, _ => float

end Numeral

end BearerAuth.Json
