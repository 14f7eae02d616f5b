import BearerAuth.Base64
import BearerAuth.Json.Printer
import BearerAuth.Json.Reader
import BearerAuth.Text.Utf8
import BearerAuth.Token.Algorithm
import BearerAuth.Token.EmbeddedKey

/-!
# Headers of tokens

The first segment of a token says how it is signed.  Only the algorithm and the key's identifier are
acted upon.  The other known members must have their shape and must not be repeated, and every
unknown member must be a text.
-/

namespace BearerAuth.Token

open Json (Source)
open Json.Source (optional? required? textOrNull? textsOrNull?)

/-- A header as read. -/
structure Header where
  /-- The algorithm of the signature. -/
  algorithm : Algorithm
  /-- The type of the token. -/
  typ : Option String
  /-- The identifier of the key. -/
  keyId : Option String
  /-- All other texts, by name. -/
  texts : Dict String
  /-- A chain of certificates. -/
  certificates : Option (List String)
  /-- The names of members that a reader has to understand. -/
  critical : Option (List String)
  /-- A key. -/
  key : Option Json
  deriving DecidableEq

namespace Header

/-- The header of a new token. -/
def new (algorithm : Algorithm) (keyId : Option String) : Header :=
  ⟨algorithm, some "JWT", keyId, .empty, none, none, none⟩

/-- The known members that are texts. -/
def textNames : List String :=
  ["typ", "cty", "jku", "kid", "x5u", "x5t", "x5t#S256", "enc", "zip", "url", "nonce"]

/-- The known members that are lists of texts. -/
def listNames : List String := ["x5c", "crit"]

/-- All known members. -/
def knownNames : List String := "alg" :: "jwk" :: textNames ++ listNames

/-- The key in a header. -/
def keyOrNull? : Source → Option (Option Json)
  | .null => some none
  | s => if EmbeddedKey.isKey s then s.toJson?.map some else none

/-- The texts among some members; fails if an unknown member is no text. -/
def otherTexts? (members : List (String × Source)) : Option (Dict String) := do
  let read (m : String × Source) : Option (List (String × String)) :=
    if m.1 ∈ "alg" :: "jwk" :: listNames then some []
    else if m.1 ∈ textNames then (m.2.textOrNull?).map fun s ↦ (s.map (m.1, ·)).toList
    else m.2.text?.map fun s ↦ [(m.1, s)]
  return .ofList (← members.mapM read).flatten

/-- The header that an object stands for.  Every part of the object has to have a value. -/
def ofSource? (source : Source) : Option Header := do
  let _ ← source.toDict?
  let members ← match source with
    | .object members => Json.Source.named? members
    | _ => none
  let algorithm ← (required? members "alg").bind Json.Source.choice? |>.bind Algorithm.ofName?
  if !knownNames.all fun name ↦ (Json.Source.unique? members name).isSome then none
  let texts ← otherTexts? members
  return {
    algorithm
    typ := texts.get? "typ"
    keyId := texts.get? "kid"
    texts := (texts.erase "typ").erase "kid"
    certificates := ← optional? textsOrNull? members "x5c"
    critical := ← optional? textsOrNull? members "crit"
    key := ← optional? keyOrNull? members "jwk" }

/-- The header of a segment. -/
def ofSegment? (segment : List Char) : Option Header := do
  let bytes ← Base64.decode? .url segment
  let text ← Text.ofBytes? bytes
  ofSource? (← Json.Source.ofText? text)

/-- The object of a header that this library issues: type, algorithm and, if there is one, the
identifier of the key, in this order. -/
def toJson (h : Header) : Json :=
  .object (([("typ", h.typ), ("alg", some h.algorithm.name), ("kid", h.keyId)].filterMap fun m ↦
    m.2.map (m.1, Json.string ·)))

/-- The segment of a header that this library issues. -/
def toSegment (h : Header) : List Char := Base64.encode .url (Text.toBytes h.toJson.toText)

end Header

end BearerAuth.Token
