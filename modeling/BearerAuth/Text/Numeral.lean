/-!
# Whole numbers in texts

A whole number is written in decimal digits, of which leading ones may be zeros, and may have a
sign.
-/

namespace BearerAuth.Text

/-- The number of some decimal digits; there must be one. -/
def natOfDigits? (digits : List Char) : Option Nat :=
  if digits ≠ [] ∧ digits.all Char.isDigit then
    some (digits.foldl (fun n c ↦ n * 10 + (c.toNat - '0'.toNat)) 0)
  else none

/-- The number of a text that is below `bound`; a plus sign may stand in front. -/
def natOfText? (bound : Nat) (s : String) : Option Nat :=
  (natOfDigits? (match s.toList with
    | '+' :: digits => digits
    | digits => digits)).filter (· < bound)

/-- The number of a text from `-bound` on and below `bound`. -/
def intOfText? (bound : Nat) (s : String) : Option Int :=
  match s.toList with
  | '-' :: digits => ((natOfDigits? digits).filter (· ≤ bound)).map fun n ↦ -(n : Int)
  | _ => (natOfText? bound s).map fun n ↦ (n : Int)

end BearerAuth.Text
