import BearerAuth.Text.Utf8

/-!
# Nested blocks of key files

The content of a key file is a list of tagged blocks, some of which hold further blocks.  This
reading is lenient: it takes lengths in any form and does not ask which blocks stand where.  It
serves to tell what kind of key a file holds and to find the bytes of the key in it; the key itself
is read strictly (`BearerAuth.Asn1.Der`).
-/

namespace BearerAuth.Asn1

/-- A block of a key file. -/
inductive Block where
  /-- A list of blocks. -/
  | sequence (items : List Block)
  /-- A bit string, without the byte that counts its unused bits. -/
  | bits (bytes : List UInt8)
  /-- A byte string. -/
  | octets (bytes : List UInt8)
  /-- The identifier of an object. -/
  | objectId (parts : List Nat)
  /-- A block of another kind. -/
  | other

namespace Block

instance : Inhabited Block := ⟨.other⟩

/-- The number in base 128 at the start of some bytes; all bytes but its last have the upper bit. -/
def base128? (n : Nat) : List UInt8 → Option (Nat × List UInt8)
  | [] => none
  | b :: rest =>
    let n := n * 128 + b.toNat % 128
    if b < 128 then some (n, rest) else base128? n rest

/-- All numbers in base 128 of some bytes. -/
def allBase128? (n : Nat) : List UInt8 → (started : Bool) → Option (List Nat)
  | [], started => if started then none else some []
  | b :: rest, _ =>
    let n := n * 128 + b.toNat % 128
    if b < 128 then (allBase128? 0 rest false).map (n :: ·) else allBase128? n rest true

/-- The parts of an object's identifier; the first byte holds two of them. -/
def objectParts? : List UInt8 → Option (List Nat)
  | [] => none
  | b :: rest =>
    let first := min (b.toNat / 40) 2
    (allBase128? 0 rest false).map fun parts ↦ first :: (b.toNat - 40 * first) :: parts

/-- The number of a tag, whether it belongs to the common tags, and what follows. -/
def tag? : List UInt8 → Option (Nat × Bool × List UInt8)
  | [] => none
  | b :: rest =>
    let common := b < 64
    if b.toNat % 32 = 31 then (base128? 0 rest).map fun (n, rest) ↦ (n, common, rest)
    else some (b.toNat % 32, common, rest)

/-- A length, and what follows. -/
def length? : List UInt8 → Option (Nat × List UInt8)
  | [] => none
  | b :: rest =>
    if b < 128 then some (b.toNat, rest)
    else
      let count := b.toNat % 128
      if count ≤ 8 ∧ count ≤ rest.length then
        some ((rest.take count).foldl (fun n b ↦ n * 256 + b.toNat) 0, rest.drop count)
      else none

/-- The number of two digits. -/
def twoDigits? : List UInt8 → Option Nat
  | [a, b] => if 48 ≤ a ∧ a ≤ 57 ∧ 48 ≤ b ∧ b ≤ 57 then
      some (10 * (a.toNat - 48) + (b.toNat - 48)) else none
  | _ => none

/-- How many days a month has. -/
def daysOf (year month : Nat) : Nat :=
  if month = 2 then
    if year % 4 = 0 ∧ (year % 100 ≠ 0 ∨ year % 400 = 0) then 29 else 28
  else if month ∈ [4, 6, 9, 11] then 30 else 31

/-- Whether some bytes are a date with a year of two digits, down to the second. -/
def isShortDate (l : List UInt8) : Bool :=
  let field (i : Nat) := twoDigits? ((l.drop (2 * i)).take 2)
  match field 0, field 1, field 2, field 3, field 4, field 5 with
  | some y, some month, some day, some hour, some minute, some second =>
    let year := if 50 ≤ y then 1900 + y else 2000 + y
    l.length = 13 && l.getLast? = some 90 && 1 ≤ month && month ≤ 12 && 1 ≤ day &&
      day ≤ daysOf year month && hour < 24 && minute < 60 && second < 60
  | _, _, _, _, _, _ => false

/-- Whether a byte may stand in a printable text. -/
def isPrintable (b : UInt8) : Bool :=
  (48 ≤ b && b ≤ 57) || (65 ≤ b && b ≤ 90) || (97 ≤ b && b ≤ 122) ||
    b ∈ " '()+,-./:=?".toList.map fun c ↦ UInt8.ofNat c.toNat

/-- Whether the bytes of a block without inner blocks are right for its tag. -/
def isRight (tag : Nat) (body : List UInt8) : Bool :=
  match tag with
  | 1 => body.length = 1
  | 12 | 20 | 28 => (Text.ofBytes? body).isSome
  | 19 => body.all isPrintable
  | 22 => body.all (· < 128)
  | 23 => isShortDate body
  | _ => true

/-- The blocks that some bytes are made of.  Every step takes one from `fuel`. -/
def readAll? : (fuel : Nat) → List UInt8 → Option (List Block)
  | 0, _ => none
  | _ + 1, [] => some []
  | fuel + 1, bytes => do
    let (tag, common, rest) ← tag? bytes
    let (length, rest) ← length? rest
    if rest.length < length then none
    let body := rest.take length
    let block ←
      if !common then some .other
      else match tag with
        | 3 =>
          match body with
          | [] => some (.bits [])
          | unused :: content =>
            if 8 * content.length < unused.toNat then none else some (.bits content)
        | 4 => some (.octets body)
        | 6 => (objectParts? body).map .objectId
        | 16 | 17 => do
          let items ← readAll? fuel body
          if items.isEmpty then none
          some (if tag = 16 then .sequence items else .other)
        | _ => if isRight tag body then some .other else none
    let more ← readAll? fuel (rest.drop length)
    return block :: more

/-- The blocks of a file; at least one. -/
def ofBytes? (bytes : List UInt8) : Option (List Block) :=
  match readAll? (bytes.length + 1) bytes with
  | some [] => none
  | blocks => blocks

mutual

/-- The first result that a function finds in blocks, in the order of the file. -/
def findIn {α : Type} (f : Block → Option α) : List Block → Option α
  | [] => none
  | b :: rest => (find f b).or (findIn f rest)

/-- The first result that a function finds in a block or the blocks in it. -/
def find {α : Type} (f : Block → Option α) : Block → Option α
  | .sequence items => findIn f items
  | b => f b

end

/-- The bytes of the first bit or byte string. -/
def firstString? (blocks : List Block) : Option (List UInt8) :=
  findIn (fun
    | .bits bytes | .octets bytes => some bytes
    | _ => none) blocks

end Block

end BearerAuth.Asn1
