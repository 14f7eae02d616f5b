import BearerAuth.Text.Hidden

/-!
# Quoted texts

How a message shows a text: in quotes, with every character visible.  Quotes and backslashes are
escaped, and characters without a shape of their own are shown by their code points.
-/

namespace BearerAuth.Text

/-- A code point in hexadecimal digits. -/
def codePoint (c : Char) : List Char := Nat.toDigits 16 c.toNat

/-- A character as it stands in a quoted text. -/
def showChar (c : Char) : List Char :=
  if c = '\x00' then ['\\', '0']
  else if c = '\t' then ['\\', 't']
  else if c = '\r' then ['\\', 'r']
  else if c = '\n' then ['\\', 'n']
  else if c = '"' ∨ c = '\\' then ['\\', c]
  else if isHidden c then ['\\', 'u', '{'] ++ codePoint c ++ ['}']
  else [c]

/-- A text in quotes. -/
def quoted (s : String) : String := String.ofList ('"' :: (s.toList.flatMap showChar ++ ['"']))

end BearerAuth.Text
