import BearerAuth.Json.Basic

/-!
# JSON texts as written

A `Source` is what a JSON text says before anything is made of it: members in their order, with
repetitions, and with the places marked that are right as text but stand for nothing (a number out
of range, a lone half of a surrogate pair).  Documents with fixed members (a token's header, a
provider document) are read from it, because there a repeated member is a fault and a member that
is ignored need not stand for anything.  Everything else is read from `Source.toJson?`, the
meaning.
-/

namespace BearerAuth.Json

/-- A JSON text as written. -/
inductive Source where
  /-- The word `null`. -/
  | null
  /-- One of the words `true` and `false`. -/
  | bool (b : Bool)
  /-- A number, `none` if it is out of range. -/
  | number (n : Option Number)
  /-- A text, `none` if an escape in it stands for no character. -/
  | string (s : Option String)
  /-- A list. -/
  | array (items : List Source)
  /-- Members as they were written. -/
  | object (members : List (Option String × Source))

namespace Source

instance : Inhabited Source := ⟨.null⟩

mutual

/-- The value of a text whose lists and objects are at most `depth` deep.  Of several members of
one name the last counts; `none` if a part stands for nothing. -/
def toJsonAt (depth : Nat) : Source → Option Json
  | .null => some .null
  | .bool b => some (.bool b)
  | .number n => n.map .number
  | .string s => s.map .string
  | .array items =>
    match depth with
    | 0 => none
    | depth + 1 => (itemsToJson depth items).map .array
  | .object members =>
    match depth with
    | 0 => none
    | depth + 1 => (membersToJson depth members).map fun l ↦ ofDict (.ofList l)

/-- The values of the items of a list. -/
def itemsToJson (depth : Nat) : List Source → Option (List Json)
  | [] => some []
  | s :: rest =>
    match toJsonAt depth s, itemsToJson depth rest with
    | some v, some vs => some (v :: vs)
    | _, _ => none

/-- The names and values of the members of an object. -/
def membersToJson (depth : Nat) : List (Option String × Source) → Option (List (String × Json))
  | [] => some []
  | (name, s) :: rest =>
    match name, toJsonAt depth s, membersToJson depth rest with
    | some k, some v, some vs => some ((k, v) :: vs)
    | _, _, _ => none

end

/-- Lists and objects may be nested this deep. -/
def maxDepth : Nat := 127

/-- The value that the text stands for. -/
def toJson? (s : Source) : Option Json := toJsonAt maxDepth s

/-- The dictionary that the text stands for, if it is an object. -/
def toDict? (s : Source) : Option (Dict Json) := s.toJson?.bind Json.members?

end Source

end BearerAuth.Json
