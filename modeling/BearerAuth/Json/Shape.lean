import BearerAuth.Json.Source

/-!
# Documents with fixed members

Documents of a known form are read member by member from the text as written.  A known member must
not be repeated, and it must have the shape asked for; what else stands in the document is up to
its reader.
-/

namespace BearerAuth.Json.Source

/-- The text. -/
def text? : Source → Option String
  | .string s => s
  | _ => none

/-- The text, or nothing for `null`. -/
def textOrNull? : Source → Option (Option String)
  | .null => some none
  | .string s => s.map some
  | _ => none

/-- The texts of a list. -/
def texts? : Source → Option (List String)
  | .array items => items.mapM text?
  | _ => none

/-- The texts of a list, or nothing for `null`. -/
def textsOrNull? : Source → Option (Option (List String))
  | .null => some none
  | s => s.texts?.map some

/-- A name out of a fixed choice, which may also be written as an object that has `null` under that
name. -/
def choice? : Source → Option String
  | .string s => s
  | .object [(name, .null)] => name
  | _ => none

/-- The members whose names stand for text. -/
def named? (members : List (Option String × Source)) : Option (List (String × Source)) :=
  members.mapM fun (name, s) ↦ name.map (·, s)

/-- The member of a name; fails if there are several. -/
def unique? (members : List (String × Source)) (name : String) : Option (Option Source) :=
  match members.filter (·.1 = name) with
  | [] => some none
  | [(_, s)] => some (some s)
  | _ => none

/-- The member of a name, which must be there. -/
def required? (members : List (String × Source)) (name : String) : Option Source :=
  (unique? members name).join

/-- The member of a name read by `f`; a missing one reads as nothing. -/
def optional? {α : Type} (f : Source → Option (Option α)) (members : List (String × Source))
    (name : String) : Option (Option α) :=
  match unique? members name with
  | none => none
  | some none => some none
  | some (some s) => f s

end BearerAuth.Json.Source
