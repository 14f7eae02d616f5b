import BearerAuth.Base64
import BearerAuth.Text.Split
import BearerAuth.Text.Utf8

/-!
# Armoured files

A key file has a line that names the kind of key, the key in base 64, and a line that names the kind
again.  Between the first line and the key there may be lines of the form `name: value`, closed by
an empty line.  These parts are text; what stands before the first line, and behind the last, need
not be, and is not looked at.
-/

namespace BearerAuth.Asn1

/-- The kind of a key and its bytes. -/
structure Pem where
  /-- The kind that both lines name. -/
  label : String
  /-- What the file holds. -/
  contents : List UInt8
  deriving DecidableEq, Repr

namespace Pem

/-- What stands before the first place of a mark, and what stands after the mark. -/
def cut? (mark : List UInt8) : List UInt8 → Option (List UInt8 × List UInt8)
  | [] => if mark = [] then some ([], []) else none
  | b :: rest =>
    if mark.isPrefixOf (b :: rest) then some ([], (b :: rest).drop mark.length)
    else (cut? mark rest).map fun (before, after) ↦ (b :: before, after)

/-- Whether a byte is left out of the key's text. -/
def isSpace (b : UInt8) : Bool := b = 32 || b = 9 || b = 10 || b = 13

/-- The lines in front of a key and the key's text. -/
def splitHeaders (body : List UInt8) : List UInt8 × List UInt8 :=
  match cut? [10, 10] body with
  | some found => found
  | none => (cut? [13, 10, 13, 10] body).getD ([], body)

/-- Whether every line has a name and a value. -/
def headersAreRight (headers : String) : Bool :=
  (Text.split '\n' headers.toList).all fun line ↦ line.isEmpty || line.contains ':'

/-- The first key of a file. -/
def ofBytes? (file : List UInt8) : Option Pem := do
  let (_, rest) ← cut? (Text.toBytes "-----BEGIN ") file
  let (opening, rest) ← cut? (Text.toBytes "-----") rest
  let (body, rest) ← cut? (Text.toBytes "-----END ") (rest.dropWhile isSpace)
  let (closing, _) ← cut? (Text.toBytes "-----") rest
  let (headers, data) := splitHeaders body
  let label ← Text.ofBytes? opening
  let headers ← Text.ofBytes? headers
  let digits ← Text.ofBytes? (data.filter (!isSpace ·))
  if label.isEmpty || opening ≠ closing || !headersAreRight headers then none
  let contents ← Base64.decodePadded? .standard digits.toList
  return ⟨label, contents⟩

end Pem

end BearerAuth.Asn1
