import BearerAuth.Network.Http
import BearerAuth.Service.Site
import BearerAuth.Text.Split

/-!
# Requests and replies on the wire

A request begins with a line that has its method and its target, and each header has a line of its
own; blanks around a value do not belong to it, and it need not be text.  A reply begins with its
status.
-/

namespace BearerAuth.Service

/-- Whether a byte is a blank within a line. -/
def isBlank (b : UInt8) : Bool := b = 32 || b = 9

/-- The bytes without blanks at their ends. -/
def trimBlanks (l : List UInt8) : List UInt8 :=
  ((l.dropWhile isBlank).reverse.dropWhile isBlank).reverse

/-- The headers of some fields. -/
def headersOfFields? : List (String × List UInt8) → Option Headers
  | [] => some .empty
  | (name, value) :: rest => do
    let v ← HeaderValue.ofBytes? (trimBlanks value)
    let headers ← headersOfFields? rest
    return ⟨(lowerCase name, v) :: headers.entries⟩

/-- The request with a method, a target and some fields. -/
def Request.ofParts? (method target : String) (fields : List (String × List UInt8)) :
    Option Request := do
  return { method, path := targetPath target, headers := ← headersOfFields? fields }

/-- The name and the value in the line of a field. -/
def field? (line : List UInt8) : Option (String × List UInt8) := do
  let (name, value) ← Text.splitOnce? 58 line
  if name = [] ∨ name.any isBlank then none
  return (← Text.ofBytes? name, value)

/-- The request of some lines. -/
def Request.ofLines? : List (List UInt8) → Option Request
  | [] => none
  | first :: rest => do
    let text ← Text.ofBytes? first
    match (Text.split ' ' text.toList).map String.ofList with
    | [method, target, version] =>
      if version ∉ ["HTTP/1.0", "HTTP/1.1"] then none
      else Request.ofParts? method target (← rest.mapM field?)
    | _ => none

/-- The reply to what is no request. -/
def malformed : Reply := Reply.measured { status := 400 }

/-- The text of a reply. -/
def Reply.toText (r : Reply) : String :=
  "\r\n".intercalate (("HTTP/1.1 " ++ Network.statusText r.status) ::
    r.headers.map (fun (name, value) ↦ name ++ ": " ++ value) ++
    ["connection: close", "", r.body])

end BearerAuth.Service
