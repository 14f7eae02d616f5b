import BearerAuth.Binary64.Shortest
import BearerAuth.Json.Basic

/-!
# Writing JSON

The compact form has no space at all; it is the form that tokens carry, so every character of it
counts.  Quotes, backslashes and control characters are escaped in texts and nothing else.  The
indented form, for reading, puts each item and member on a line of its own.
-/

namespace BearerAuth.Json

/-! ## Numbers and texts -/

/-- A finite number in shortest digits: without an exponent from a hundred-thousandth up to
`10 ^ 16`, with one outside. -/
def printFloat : Binary64 → String
  | .finite negative m e _ =>
    let d := Decimal.shortest m e
    let text := if -5 < d.point ∧ d.point ≤ 16 then d.positional else d.scientific
    if negative then "-" ++ text else text
  | _ => "null"

/-- The text of a number. -/
def Number.print : Number → String
  | .integer n => n.repr
  | .float x => printFloat x

/-- The hexadecimal digit of a number below sixteen. -/
def hexDigit (n : Nat) : Char :=
  if n < 10 then Char.ofNat ('0'.toNat + n) else Char.ofNat ('a'.toNat + (n - 10))

/-- A character as it stands in a text value. -/
def escape (c : Char) : List Char :=
  if c = '"' then ['\\', '"']
  else if c = '\\' then ['\\', '\\']
  else if c = '\x08' then ['\\', 'b']
  else if c = '\x0c' then ['\\', 'f']
  else if c = '\n' then ['\\', 'n']
  else if c = '\r' then ['\\', 'r']
  else if c = '\t' then ['\\', 't']
  else if c < ' ' then ['\\', 'u', '0', '0', hexDigit (c.toNat / 16), hexDigit (c.toNat % 16)]
  else [c]

/-- A text value in quotes. -/
def quote (s : String) : List Char := '"' :: (s.toList.flatMap escape ++ ['"'])

/-! ## The compact form -/

mutual

/-- The compact form of a value. -/
def print : Json → List Char
  | .null => ['n', 'u', 'l', 'l']
  | .bool true => ['t', 'r', 'u', 'e']
  | .bool false => ['f', 'a', 'l', 's', 'e']
  | .number n => n.print.toList
  | .string s => quote s
  | .array [] => ['[', ']']
  | .array (v :: rest) => '[' :: (print v ++ printItems rest)
  | .object [] => ['{', '}']
  | .object ((name, v) :: rest) => '{' :: (quote name ++ ':' :: (print v ++ printMembers rest))

/-- The items after the first, each behind a comma, and the closing bracket. -/
def printItems : List Json → List Char
  | [] => [']']
  | v :: rest => ',' :: (print v ++ printItems rest)

/-- The members after the first, each behind a comma, and the closing bracket. -/
def printMembers : List (String × Json) → List Char
  | [] => ['}']
  | (name, v) :: rest => ',' :: (quote name ++ ':' :: (print v ++ printMembers rest))

end

/-- The compact text of a value. -/
def toText (v : Json) : String := String.ofList v.print

/-! ## The indented form -/

/-- A line break and two spaces for each level. -/
def newline (level : Nat) : List Char := '\n' :: List.replicate (2 * level) ' '

mutual

/-- The indented form of a value that stands at `level`. -/
def printIndented (level : Nat) : Json → List Char
  | .array (v :: rest) =>
    '[' :: (newline (level + 1) ++ printIndented (level + 1) v ++ printItemLines level rest)
  | .object ((name, v) :: rest) =>
    '{' :: (newline (level + 1) ++ quote name ++ ':' :: ' ' ::
      (printIndented (level + 1) v ++ printMemberLines level rest))
  | .null => ['n', 'u', 'l', 'l']
  | .bool true => ['t', 'r', 'u', 'e']
  | .bool false => ['f', 'a', 'l', 's', 'e']
  | .number n => n.print.toList
  | .string s => quote s
  | .array [] => ['[', ']']
  | .object [] => ['{', '}']

/-- The items after the first and the closing bracket of a list at `level`. -/
def printItemLines (level : Nat) : List Json → List Char
  | [] => newline level ++ [']']
  | v :: rest =>
    ',' :: (newline (level + 1) ++ printIndented (level + 1) v ++ printItemLines level rest)

/-- The members after the first and the closing bracket of an object at `level`. -/
def printMemberLines (level : Nat) : List (String × Json) → List Char
  | [] => newline level ++ ['}']
  | (name, v) :: rest =>
    ',' :: (newline (level + 1) ++ quote name ++ ':' :: ' ' ::
      (printIndented (level + 1) v ++ printMemberLines level rest))

end

/-- The indented text of a value. -/
def toIndentedText (v : Json) : String := String.ofList (v.printIndented 0)

end BearerAuth.Json
