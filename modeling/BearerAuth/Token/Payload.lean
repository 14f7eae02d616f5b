import BearerAuth.Base64
import BearerAuth.Json.Printer
import BearerAuth.Json.Reader
import BearerAuth.Json.Shape
import BearerAuth.Text.Utf8
import BearerAuth.Token.Fault

/-!
# Payload segments

The second segment of a token is a JSON object.  Beyond that, some members must not be repeated and
must not hold lists or objects, whatever becomes of them later.
-/

namespace BearerAuth.Token.Payload

open Json (Source)

/-- The members that must not be repeated. -/
def singleNames : List String := ["exp", "nbf", "sub", "iss", "aud"]

/-- Whether a value is a list or an object. -/
def isNested : Source → Bool
  | .array _ | .object _ => true
  | _ => false

/-- Whether a value is a list or an object that is not empty. -/
def isFilled : Source → Bool
  | .array (_ :: _) | .object (_ :: _) => true
  | _ => false

/-- Whether the registered members of an object stand once and in a bearable shape. -/
def isPlain (members : List (Option String × Source)) : Bool :=
  match Source.named? members with
  | none => false
  | some members =>
    (singleNames.all fun name ↦ (Source.unique? members name).isSome) &&
      members.all fun (name, v) ↦
        !(name = "sub" && isNested v) && !((name = "exp" || name = "nbf") && isFilled v)

/-- The object that a text stands for. -/
def ofSource? (s : Source) : Option (Dict Json) :=
  match s with
  | .object members => if isPlain members then s.toDict? else none
  | _ => none

/-- The object of a segment. -/
def ofSegment (segment : List Char) : Except Fault (Dict Json) :=
  match Base64.decode? .url segment with
  | none => .error .base64
  | some bytes =>
    match ((Text.ofBytes? bytes).bind Source.ofText?).bind ofSource? with
    | some payload => .ok payload
    | none => .error .json

/-- The segment of an object. -/
def toSegment (payload : Dict Json) : List Char :=
  Base64.encode .url (Text.toBytes (Json.ofDict payload).toText)

end BearerAuth.Token.Payload
