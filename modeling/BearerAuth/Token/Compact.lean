import BearerAuth.Text.Utf8

/-!
# The compact form of tokens

A token is three segments with dots between them.  It is taken apart at its last two dots, so dots
further to the front belong to the first segment.
-/

namespace BearerAuth.Token

/-- The segments of a token. -/
structure Compact where
  /-- How the token is signed. -/
  header : List Char
  /-- What the token says. -/
  payload : List Char
  /-- The signature over the two others. -/
  signature : List Char
  deriving DecidableEq, Repr

namespace Compact

/-- The text before the last place of a character and the text after it. -/
def splitLast? (c : Char) : List Char → Option (List Char × List Char)
  | [] => none
  | x :: rest =>
    match splitLast? c rest with
    | some (before, after) => some (x :: before, after)
    | none => if x = c then some ([], rest) else none

/-- The segments of a text with at least two dots. -/
def ofText? (text : String) : Option Compact := do
  let (message, signature) ← splitLast? '.' text.toList
  let (header, payload) ← splitLast? '.' message
  return ⟨header, payload, signature⟩

/-- What is signed: the first two segments. -/
def message (c : Compact) : List Char := c.header ++ '.' :: c.payload

/-- The text of a token. -/
def toText (c : Compact) : String := String.ofList (c.message ++ '.' :: c.signature)

/-- The bytes of what is signed. -/
def messageBytes (c : Compact) : List UInt8 := Text.toBytes (String.ofList c.message)

/-- A text is taken apart at its last place of the character. -/
theorem splitLast?_append {c : Char} {before after : List Char} (h : c ∉ after) :
    splitLast? c (before ++ c :: after) = some (before, after) := by
  have hnone : splitLast? c after = none := by
    induction after with
    | nil => rfl
    | cons x rest ih =>
      simp only [List.mem_cons, not_or] at h
      simp [splitLast?, ih h.2, Ne.symm h.1]
  induction before with
  | nil => simp [splitLast?, hnone]
  | cons x rest ih => simp [splitLast?, ih]

/-- A token whose last two segments have no dots is taken apart into its segments. -/
theorem ofText?_toText {c : Compact} (hp : '.' ∉ c.payload) (hs : '.' ∉ c.signature) :
    ofText? c.toText = some c := by
  have hlast : splitLast? '.' (c.message ++ '.' :: c.signature) = some (c.message, c.signature) :=
    splitLast?_append hs
  have hfirst : splitLast? '.' c.message = some (c.header, c.payload) := splitLast?_append hp
  simp [ofText?, toText, hlast, hfirst]

end Compact

end BearerAuth.Token
