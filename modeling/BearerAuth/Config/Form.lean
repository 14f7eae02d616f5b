import BearerAuth.Json.Printer
import BearerAuth.Text.Quoted

/-!
# Records in documents

A record stands in a document as an object with a member for each field, or as the list of its
fields in their order.  In an object the members are looked at in the order of their names and other
members do not count; in a list the last fields may be missing.  A field that may be missing keeps
the value that it has in the blank record.
-/

namespace BearerAuth.Config

/-- Why a document is not what it should be. -/
inductive ShapeFault where
  /-- A value is of another type than expected. -/
  | type (found : Json) (expected : String)
  /-- A number is out of range. -/
  | range (found : Int) (expected : String)
  /-- A field is missing. -/
  | missing (field : String)
  /-- A name is none of the names known. -/
  | unknownName (name : String) (known : List String)
  /-- A list ends before a field that must be there. -/
  | tooShort (length : Nat) (record : String) (fields : Nat)
  /-- A list goes on after its last field. -/
  | tooLong (length fields : Nat)

namespace ShapeFault

/-- How a message speaks of a value. -/
def describe : Json → String
  | .null => "null"
  | .bool true => "boolean `true`"
  | .bool false => "boolean `false`"
  | .number (.integer n) => "integer `" ++ n.repr ++ "`"
  | .number (.float x) => "floating point `" ++ Json.printFloat x ++ "`"
  | .string s => "string " ++ Text.quoted s
  | .array _ => "sequence"
  | .object _ => "map"

/-- A number of elements. -/
def elements (n : Nat) : String := if n = 1 then "1 element" else n.repr ++ " elements"

/-- The message of a fault. -/
def message : ShapeFault → String
  | type found expected => "invalid type: " ++ describe found ++ ", expected " ++ expected
  | range found expected =>
    "invalid value: " ++ describe (.ofInt found) ++ ", expected " ++ expected
  | missing field => "missing field `" ++ field ++ "`"
  | unknownName name known => "unknown variant `" ++ name ++ "`, expected one of " ++
    ", ".intercalate (known.map fun k ↦ "`" ++ k ++ "`")
  | tooShort length record fields => "invalid length " ++ length.repr ++ ", expected struct " ++
    record ++ " with " ++ elements fields
  | tooLong length fields => "invalid length " ++ length.repr ++ ", expected " ++ elements fields ++
    " in sequence"

end ShapeFault

/-! ## Values of fields -/

/-- The text of a value; `expected` is what a message asks for. -/
def readText (expected : String) : Json → Except ShapeFault String
  | .string s => .ok s
  | v => .error (.type v expected)

/-- The number of a value: whole, not negative and of 64 bits. -/
def readNumber : Json → Except ShapeFault UInt64
  | .number (.integer n) =>
    if 0 ≤ n ∧ n < 2 ^ 64 then .ok (.ofNat n.toNat) else .error (.range n "u64")
  | v => .error (.type v "u64")

/-- The texts of a value. -/
def readTexts : Json → Except ShapeFault (List String)
  | .array items => items.mapM (readText "a string")
  | v => .error (.type v "a sequence")

/-- A value that may be `null`. -/
def readOptional {α : Type} (f : Json → Except ShapeFault α) : Json → Except ShapeFault (Option α)
  | .null => .ok none
  | v => (f v).map some

/-! ## Records -/

/-- A field of a record: its name, and how a value is put into a record. -/
structure Field (α : Type) where
  /-- The name of the field. -/
  name : String
  /-- The record with a value in this field. -/
  put : α → Json → Except ShapeFault α

/-- How a record stands in a document. -/
structure Form (α : Type) where
  /-- The name of the record, for messages. -/
  name : String
  /-- The fields in their order. -/
  fields : List (Field α)
  /-- The names of the fields that must be there. -/
  required : List String
  /-- The record without any field filled in. -/
  blank : α

namespace Form

variable {α : Type}

/-- The record with the members of an object put in, those that are fields. -/
def fill (f : Form α) (a : α) : List (String × Json) → Except ShapeFault α
  | [] => .ok a
  | (name, v) :: rest =>
    match f.fields.find? (·.name = name) with
    | none => f.fill a rest
    | some field =>
      match field.put a v with
      | .ok a => f.fill a rest
      | .error e => .error e

/-- The record of an object. -/
def ofMembers (f : Form α) (members : List (String × Json)) : Except ShapeFault α :=
  match f.fill f.blank members with
  | .error e => .error e
  | .ok a =>
    match f.required.find? fun name ↦ name ∉ members.map Prod.fst with
    | some name => .error (.missing name)
    | none => .ok a

/-- The record with the items of a list put into the fields from the one numbered `index` on. -/
def fillInOrder (f : Form α) (index : Nat) (a : α) :
    List (Field α) → List Json → Except ShapeFault α
  | [], items =>
    if items = [] then .ok a else .error (.tooLong (index + items.length) f.fields.length)
  | field :: fields, [] =>
    if field.name ∈ f.required then .error (.tooShort index f.name f.fields.length)
    else f.fillInOrder (index + 1) a fields []
  | field :: fields, v :: items =>
    match field.put a v with
    | .ok a => f.fillInOrder (index + 1) a fields items
    | .error e => .error e

/-- The record of a list. -/
def ofItems (f : Form α) (items : List Json) : Except ShapeFault α :=
  f.fillInOrder 0 f.blank f.fields items

end Form

end BearerAuth.Config
