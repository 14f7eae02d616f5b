import BearerAuth.Json.Basic

/-!
# References to variables

A text may refer to variables: a reference is a dollar sign and a name in braces, and it stands for
the value of the variable.  Values are put in as they are and not looked through again.  A reference
to a variable that is not set stands for itself; one whose brace is never closed reaches to the end
of the text and is closed if it stands for itself.  Only texts are expanded: names of members, and
all else in a document, stay as they are.
-/

namespace BearerAuth.Config

/-- What a reference to a name stands for. -/
def referent (lookup : String → Option String) (name : List Char) : List Char :=
  match lookup (String.ofList name) with
  | some value => value.toList
  | none => '$' :: '{' :: (name ++ ['}'])

/-- The characters of a text with references replaced. -/
def expandChars (lookup : String → Option String) : List Char → List Char
  | [] => []
  | [c] => [c]
  | c :: d :: rest =>
    if c = '$' ∧ d = '{' then
      referent lookup (rest.takeWhile (· ≠ '}')) ++
        expandChars lookup (rest.dropWhile (· ≠ '}')).tail
    else c :: expandChars lookup (d :: rest)
termination_by cs => cs.length
decreasing_by
  · have h := (List.dropWhile_suffix (l := rest) fun x : Char ↦ decide (x ≠ '}')).length_le
    simp only [List.length_tail, List.length_cons]
    omega
  · simp

/-- The text with references replaced. -/
def expand (lookup : String → Option String) (s : String) : String :=
  String.ofList (expandChars lookup s.toList)

mutual

/-- The document with the references in its texts replaced. -/
def expandJson (lookup : String → Option String) : Json → Json
  | .string s => .string (expand lookup s)
  | .array items => .array (expandItems lookup items)
  | .object members => .object (expandMembers lookup members)
  | .null => .null
  | .bool b => .bool b
  | .number n => .number n

/-- The items with the references in their texts replaced. -/
def expandItems (lookup : String → Option String) : List Json → List Json
  | [] => []
  | v :: rest => expandJson lookup v :: expandItems lookup rest

/-- The members with the references in their texts replaced. -/
def expandMembers (lookup : String → Option String) : List (String × Json) → List (String × Json)
  | [] => []
  | (name, v) :: rest => (name, expandJson lookup v) :: expandMembers lookup rest

end

/-! ## What is referred to -/

/-- The names that a text refers to. -/
def namesIn : List Char → List String
  | [] | [_] => []
  | c :: d :: rest =>
    if c = '$' ∧ d = '{' then
      String.ofList (rest.takeWhile (· ≠ '}')) :: namesIn (rest.dropWhile (· ≠ '}')).tail
    else namesIn (d :: rest)
termination_by cs => cs.length
decreasing_by
  · have h := (List.dropWhile_suffix (l := rest) fun x : Char ↦ decide (x ≠ '}')).length_le
    simp only [List.length_tail, List.length_cons]
    omega
  · simp

mutual

/-- The names that the texts of a document refer to. -/
def namesInJson : Json → List String
  | .string s => namesIn s.toList
  | .array items => namesInItems items
  | .object members => namesInMembers members
  | .null | .bool _ | .number _ => []

/-- The names that the texts of some items refer to. -/
def namesInItems : List Json → List String
  | [] => []
  | v :: rest => namesInJson v ++ namesInItems rest

/-- The names that the texts of some members refer to. -/
def namesInMembers : List (String × Json) → List String
  | [] => []
  | (_, v) :: rest => namesInJson v ++ namesInMembers rest

end

end BearerAuth.Config
