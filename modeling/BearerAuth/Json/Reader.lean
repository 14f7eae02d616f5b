import BearerAuth.Json.Numeral
import BearerAuth.Json.Source
import BearerAuth.Text.Utf8

/-!
# Reading JSON

Documents are read strictly: no byte order mark, no comments, no comma before a closing bracket, and
control characters in a text value only as escapes.  Each function takes the characters in front of
it and gives what it read with the characters that follow.

A document is a text, or it is bytes.  Bytes are read like characters, each as the character of its
number; whether those between two quotes are UTF-8 is only known when the closing quote has been
read, and if they are not, the text value stands for nothing (`Coding`).  So bytes that are no text
do not spoil a document in which nobody asks for them.
-/

namespace BearerAuth.Json

/-- Whether a character may stand between the parts of a JSON text. -/
def isSpace (c : Char) : Bool := c = ' ' || c = '\t' || c = '\n' || c = '\r'

/-- The text without the space in front. -/
def skipSpace (cs : List Char) : List Char := cs.dropWhile isSpace

/-- How a document spells the characters of its text values. -/
structure Coding where
  /-- What a character is spelled as. -/
  spell : Char → List Char
  /-- The text that is spelled in some way, if there is one. -/
  text? : List Char → Option String

namespace Coding

/-- A document that is a text spells characters as themselves. -/
def text : Coding where
  spell c := [c]
  text? cs := some (String.ofList cs)

@[simp] theorem spell_text (c : Char) : text.spell c = [c] := rfl

@[simp] theorem text?_text (cs : List Char) : text.text? cs = some (String.ofList cs) := rfl

/-- A document that is bytes spells characters in UTF-8. -/
def bytes : Coding where
  spell c := (String.utf8EncodeChar c).map Char.ofUInt8
  text? cs := Text.ofBytes? (cs.map Char.toUInt8)

theorem spell_bytes (c : Char) : bytes.spell c = (String.utf8EncodeChar c).map Char.ofUInt8 := rfl

theorem text?_bytes (cs : List Char) : bytes.text? cs = Text.ofBytes? (cs.map Char.toUInt8) := rfl

end Coding

/-! ## Text values -/

/-- A character of a text value, or one half of a pair written as an escape. -/
inductive Piece where
  /-- A character. -/
  | char (c : Char)
  /-- A code unit written as four hexadecimal digits. -/
  | unit (u : Nat)
  deriving DecidableEq

/-- The value of a hexadecimal digit of either case. -/
def hexDigit? (c : Char) : Option Nat :=
  if '0' ≤ c ∧ c ≤ '9' then some (c.toNat - '0'.toNat)
  else if 'a' ≤ c ∧ c ≤ 'f' then some (c.toNat - 'a'.toNat + 10)
  else if 'A' ≤ c ∧ c ≤ 'F' then some (c.toNat - 'A'.toNat + 10)
  else none

/-- The number of four hexadecimal digits. -/
def hex4? (a b c d : Char) : Option Nat := do
  return (((← hexDigit? a) * 16 + (← hexDigit? b)) * 16 + (← hexDigit? c)) * 16 + (← hexDigit? d)

/-- The character that a backslash and a letter stand for. -/
def shortEscape? : Char → Option Char
  | '"' => some '"'
  | '\\' => some '\\'
  | '/' => some '/'
  | 'b' => some '\x08'
  | 'f' => some '\x0c'
  | 'n' => some '\n'
  | 'r' => some '\r'
  | 't' => some '\t'
  | _ => none

/-- The pieces of a text value up to its closing quote, and what follows the quote. -/
def lexPieces : List Char → Option (List Piece × List Char)
  | [] => none
  | '"' :: rest => some ([], rest)
  | '\\' :: 'u' :: a :: b :: c :: d :: rest => do
    let u ← hex4? a b c d
    let (pieces, rest) ← lexPieces rest
    return (.unit u :: pieces, rest)
  | '\\' :: e :: rest => do
    let c ← shortEscape? e
    let (pieces, rest) ← lexPieces rest
    return (.char c :: pieces, rest)
  | c :: rest =>
    if c < ' ' ∨ c = '\\' then none else do
      let (pieces, rest) ← lexPieces rest
      return (.char c :: pieces, rest)

/-- Whether a code unit is the first half of a pair. -/
def isHighHalf (u : Nat) : Bool := 0xD800 ≤ u && u < 0xDC00

/-- Whether a code unit is the second half of a pair. -/
def isLowHalf (u : Nat) : Bool := 0xDC00 ≤ u && u < 0xE000

/-- What pieces are spelled as together; `none` if one half of a pair is without the other. -/
def joinPieces (k : Coding) : List Piece → Option (List Char)
  | [] => some []
  | .char c :: rest => (joinPieces k rest).map (c :: ·)
  | .unit u :: .unit v :: rest =>
    if isHighHalf u then
      if isLowHalf v then
        (joinPieces k rest).map
          (k.spell (Char.ofNat (0x10000 + (u - 0xD800) * 0x400 + (v - 0xDC00))) ++ ·)
      else none
    else if isLowHalf u then none
    else (joinPieces k (.unit v :: rest)).map (k.spell (Char.ofNat u) ++ ·)
  | .unit u :: rest =>
    if isHighHalf u || isLowHalf u then none
    else (joinPieces k rest).map (k.spell (Char.ofNat u) ++ ·)

/-- The text value whose opening quote has been read. -/
def lexString (k : Coding) (cs : List Char) : Option (Option String × List Char) :=
  (lexPieces cs).map fun (pieces, rest) ↦ ((joinPieces k pieces).bind k.text?, rest)

/-! ## Values -/

/-- What follows a word at the start of a text. -/
def dropWord : (word cs : List Char) → Option (List Char)
  | [], cs => some cs
  | w :: word, c :: cs => if w = c then dropWord word cs else none
  | _ :: _, [] => none

mutual

/-- The value at the start of a text.  Every nested step takes one from `fuel`. -/
def readValue (k : Coding) : (fuel : Nat) → List Char → Option (Source × List Char)
  | 0, _ => none
  | fuel + 1, cs =>
    match skipSpace cs with
    | '{' :: rest =>
      match skipSpace rest with
      | '}' :: rest => some (.object [], rest)
      | rest => (readMembers k fuel rest).map fun (l, rest) ↦ (.object l, rest)
    | '[' :: rest =>
      match skipSpace rest with
      | ']' :: rest => some (.array [], rest)
      | rest => (readItems k fuel rest).map fun (l, rest) ↦ (.array l, rest)
    | '"' :: rest => (lexString k rest).map fun (s, rest) ↦ (.string s, rest)
    | 'n' :: rest => (dropWord ['u', 'l', 'l'] rest).map (Source.null, ·)
    | 't' :: rest => (dropWord ['r', 'u', 'e'] rest).map (Source.bool true, ·)
    | 'f' :: rest => (dropWord ['a', 'l', 's', 'e'] rest).map (Source.bool false, ·)
    | cs => (Numeral.lex cs).map fun (n, rest) ↦ (.number n.value, rest)

/-- The items of a list up to its closing bracket; at least one. -/
def readItems (k : Coding) : (fuel : Nat) → List Char → Option (List Source × List Char)
  | 0, _ => none
  | fuel + 1, cs => do
    let (item, rest) ← readValue k fuel cs
    match skipSpace rest with
    | ',' :: rest =>
      let (items, rest) ← readItems k fuel rest
      return (item :: items, rest)
    | ']' :: rest => return ([item], rest)
    | _ => none

/-- The members of an object up to its closing bracket; at least one. -/
def readMembers (k : Coding) :
    (fuel : Nat) → List Char → Option (List (Option String × Source) × List Char)
  | 0, _ => none
  | fuel + 1, cs => do
    let (name, rest) ← match skipSpace cs with
      | '"' :: rest => lexString k rest
      | _ => none
    let rest ← match skipSpace rest with
      | ':' :: rest => some rest
      | _ => none
    let (value, rest) ← readValue k fuel rest
    match skipSpace rest with
    | ',' :: rest =>
      let (members, rest) ← readMembers k fuel rest
      return ((name, value) :: members, rest)
    | '}' :: rest => return ([(name, value)], rest)
    | _ => none

end

/-- The value at the start of a document, and what follows it.  Every second nested step reads a
character, so twice the length of the document is fuel enough. -/
def readFront (k : Coding) (cs : List Char) : Option (Source × List Char) :=
  readValue k (2 * cs.length + 2) cs

/-- The document as written, if it is one value with nothing but space around it. -/
def readWhole (k : Coding) (cs : List Char) : Option Source :=
  match readFront k cs with
  | some (s, rest) => if (skipSpace rest).isEmpty then some s else none
  | none => none

/-- The text as written, if it is one value with nothing but space around it. -/
def Source.ofText? (text : String) : Option Source := readWhole .text text.toList

/-- The bytes as written, if they are one value with nothing but space around it. -/
def Source.ofBytes? (bytes : List UInt8) : Option Source :=
  readWhole .bytes (bytes.map Char.ofUInt8)

/-- The value of a text. -/
def ofText? (text : String) : Option Json := (Source.ofText? text).bind Source.toJson?

end BearerAuth.Json
