import BearerAuth.Binary64.Basic
import BearerAuth.Dict

/-!
# JSON values

The values that a JSON text stands for.  An object that is read from a text, or made from a
dictionary by `Json.ofDict`, lists its members in increasing order of their names and no name occurs
twice; a document of a fixed form may list them in an order of its own.
-/

namespace BearerAuth

/-- A number as a JSON text writes it: whole, or with a fraction or an exponent. -/
inductive Json.Number where
  /-- A whole number. -/
  | integer (n : Int)
  /-- A number with a fraction or an exponent, rounded. -/
  | float (x : Binary64)
  deriving DecidableEq

/-- A JSON value. -/
inductive Json where
  /-- The value `null`. -/
  | null
  /-- A truth value. -/
  | bool (b : Bool)
  /-- A number. -/
  | number (n : Json.Number)
  /-- A text. -/
  | string (s : String)
  /-- A list of values. -/
  | array (items : List Json)
  /-- Named values. -/
  | object (members : List (String × Json))

namespace Json

instance : Inhabited Json := ⟨.null⟩

/-- The number nearest to what was written. -/
def Number.toBinary64 : Number → Binary64
  | .integer n => .ofInt n
  | .float x => x

/-- The object with the entries of a dictionary as members. -/
def ofDict (d : Dict Json) : Json := .object d.entries

/-- The whole number `n`. -/
def ofInt (n : Int) : Json := .number (.integer n)

/-- The list of some texts. -/
def ofStrings (l : List String) : Json := .array (l.map .string)

/-- The text or `null`. -/
def stringOrNull : Option String → Json
  | some s => .string s
  | none => .null

/-- The text, if the value is one. -/
def string? : Json → Option String
  | .string s => some s
  | _ => none

/-- The texts of a list of texts. -/
def strings? : Json → Option (List String)
  | .array items => items.mapM string?
  | _ => none

/-- The members of an object. -/
def members? : Json → Option (Dict Json)
  | .object members => some (.ofList members)
  | _ => none

/-! ## Equality is decidable -/

mutual

/-- Decides whether two values are equal. -/
def decEq : (a b : Json) → Decidable (a = b)
  | .null, .null => isTrue rfl
  | .bool a, .bool b => if h : a = b then isTrue (h ▸ rfl) else isFalse fun g ↦ h (by cases g; rfl)
  | .number a, .number b =>
    if h : a = b then isTrue (h ▸ rfl) else isFalse fun g ↦ h (by cases g; rfl)
  | .string a, .string b =>
    if h : a = b then isTrue (h ▸ rfl) else isFalse fun g ↦ h (by cases g; rfl)
  | .array a, .array b =>
    match decEqItems a b with
    | isTrue h => isTrue (h ▸ rfl)
    | isFalse h => isFalse fun g ↦ h (by cases g; rfl)
  | .object a, .object b =>
    match decEqMembers a b with
    | isTrue h => isTrue (h ▸ rfl)
    | isFalse h => isFalse fun g ↦ h (by cases g; rfl)
  | .null, .bool _ | .null, .number _ | .null, .string _ | .null, .array _ | .null, .object _ =>
    isFalse nofun
  | .bool _, .null | .bool _, .number _ | .bool _, .string _ | .bool _, .array _
  | .bool _, .object _ => isFalse nofun
  | .number _, .null | .number _, .bool _ | .number _, .string _ | .number _, .array _
  | .number _, .object _ => isFalse nofun
  | .string _, .null | .string _, .bool _ | .string _, .number _ | .string _, .array _
  | .string _, .object _ => isFalse nofun
  | .array _, .null | .array _, .bool _ | .array _, .number _ | .array _, .string _
  | .array _, .object _ => isFalse nofun
  | .object _, .null | .object _, .bool _ | .object _, .number _ | .object _, .string _
  | .object _, .array _ => isFalse nofun

/-- Decides whether two lists of values are equal. -/
def decEqItems : (a b : List Json) → Decidable (a = b)
  | [], [] => isTrue rfl
  | a :: as, b :: bs =>
    match decEq a b, decEqItems as bs with
    | isTrue h, isTrue g => isTrue (h ▸ g ▸ rfl)
    | isFalse h, _ => isFalse fun g ↦ h (by cases g; rfl)
    | _, isFalse h => isFalse fun g ↦ h (by cases g; rfl)
  | [], _ :: _ | _ :: _, [] => isFalse nofun

/-- Decides whether two lists of members are equal. -/
def decEqMembers : (a b : List (String × Json)) → Decidable (a = b)
  | [], [] => isTrue rfl
  | (k, a) :: as, (l, b) :: bs =>
    if hk : k = l then
      match decEq a b, decEqMembers as bs with
      | isTrue h, isTrue g => isTrue (hk ▸ h ▸ g ▸ rfl)
      | isFalse h, _ => isFalse fun g ↦ h (by cases g; rfl)
      | _, isFalse h => isFalse fun g ↦ h (by cases g; rfl)
    else isFalse fun g ↦ hk (by cases g; rfl)
  | [], _ :: _ | _ :: _, [] => isFalse nofun

end

instance : DecidableEq Json := decEq

end Json

end BearerAuth
