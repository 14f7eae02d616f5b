import BearerAuth.Power

/-!
# Distinguished encoding

The strict reading of keys: one element after the other, each with the tag asked for, lengths and
numbers in their shortest form, and nothing left over.
-/

namespace BearerAuth.Asn1.Der

/-- The contents of the element at the start of some bytes, and what follows; the element must have
the tag asked for and its length the shortest form. -/
def element? (tag : UInt8) : List UInt8 → Option (List UInt8 × List UInt8)
  | t :: b :: rest =>
    if t ≠ tag then none
    else if b < 128 then
      if b.toNat ≤ rest.length then some (rest.take b.toNat, rest.drop b.toNat) else none
    else
      let count := b.toNat - 128
      let length := (rest.take count).foldl (fun n b ↦ n * 256 + b.toNat) 0
      let rest' := rest.drop count
      if 1 ≤ count ∧ count ≤ 4 ∧ count ≤ rest.length ∧ 128 ≤ length ∧ 256 ^ (count - 1) ≤ length ∧
          length ≤ rest'.length then some (rest'.take length, rest'.drop length)
      else none
  | _ => none

/-- The contents of an element that nothing follows. -/
def only? (tag : UInt8) (bytes : List UInt8) : Option (List UInt8) :=
  match element? tag bytes with
  | some (contents, []) => some contents
  | _ => none

/-- A number that is not negative, in its shortest form, and what follows. -/
def natural? (bytes : List UInt8) : Option (Nat × List UInt8) := do
  let (contents, rest) ← element? 0x02 bytes
  let n := contents.foldl (fun n b ↦ n * 256 + b.toNat) 0
  match contents with
  | [] => none
  | [b] => if b < 128 then some (n, rest) else none
  | a :: b :: _ => if a < 128 ∧ (a ≠ 0 ∨ 128 ≤ b) then some (n, rest) else none

/-- Several numbers, and what follows. -/
def naturals? : (count : Nat) → List UInt8 → Option (List Nat × List UInt8)
  | 0, bytes => some ([], bytes)
  | count + 1, bytes => do
    let (n, rest) ← natural? bytes
    let (more, rest) ← naturals? count rest
    return (n :: more, rest)

/-- The contents of a bit string without unused bits, and what follows. -/
def bits? (tag : UInt8) (bytes : List UInt8) : Option (List UInt8 × List UInt8) :=
  match element? tag bytes with
  | some (0 :: contents, rest) => some (contents, rest)
  | _ => none

/-- The contents of an element that may be absent, and what follows. -/
def optional? (tag : UInt8) (bytes : List UInt8) : Option (Option (List UInt8) × List UInt8) :=
  if bytes.head? = some tag then
    (element? tag bytes).map fun (contents, rest) ↦ (some contents, rest)
  else some (none, bytes)

end BearerAuth.Asn1.Der
