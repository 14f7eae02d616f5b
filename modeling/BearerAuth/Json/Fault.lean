import BearerAuth.Json.Reader
import BearerAuth.Text.Utf8

/-!
# Why a text is not JSON

The first thing in a text that keeps it from being a value, and where it stands.  The text is
scanned as its reader reads it, but over the bytes of its UTF-8 form, each taken as a character,
because a place is counted in bytes.  What is left to read is always an end of the text, so a place
is known by the number of bytes that are left behind it.
-/

namespace BearerAuth.Json

/-- What keeps a text from being a value. -/
inductive Fault.Cause where
  /-- The text ends within a list. -/
  | endInList
  /-- The text ends within an object. -/
  | endInObject
  /-- The text ends within a text value. -/
  | endInString
  /-- The text ends where a value should be. -/
  | endInValue
  /-- No colon follows the name of a member. -/
  | noColon
  /-- Neither a comma nor the end follows an item of a list. -/
  | noListEnd
  /-- Neither a comma nor the end follows a member of an object. -/
  | noObjectEnd
  /-- A word begins as `null`, `true` or `false` and goes on as none of them. -/
  | unknownWord
  /-- There is something else where a value should be. -/
  | noValue
  /-- A backslash is followed by what makes no escape. -/
  | invalidEscape
  /-- A number is written wrongly. -/
  | invalidNumber
  /-- A number is out of range. -/
  | numberOutOfRange
  /-- A text value has a control character in it. -/
  | controlCharacter
  /-- The name of a member is not a text value. -/
  | noName
  /-- A half of a pair is not the half that is due. -/
  | wrongHalf
  /-- A first half of a pair is followed by no escape. -/
  | unfinishedPair
  /-- A comma stands before a closing bracket. -/
  | trailingComma
  /-- Something follows the value. -/
  | trailingText
  /-- Lists and objects are nested too deep. -/
  | tooDeep
  deriving DecidableEq, Repr

/-- What a cause says. -/
def Fault.Cause.message : Fault.Cause → String
  | endInList => "EOF while parsing a list"
  | endInObject => "EOF while parsing an object"
  | endInString => "EOF while parsing a string"
  | endInValue => "EOF while parsing a value"
  | noColon => "expected `:`"
  | noListEnd => "expected `,` or `]`"
  | noObjectEnd => "expected `,` or `\x7d`"
  | unknownWord => "expected ident"
  | noValue => "expected value"
  | invalidEscape => "invalid escape"
  | invalidNumber => "invalid number"
  | numberOutOfRange => "number out of range"
  | controlCharacter => "control character (\\u0000-\\u001F) found while parsing a string"
  | noName => "key must be a string"
  | wrongHalf => "lone leading surrogate in hex escape"
  | unfinishedPair => "unexpected end of hex escape"
  | trailingComma => "trailing comma"
  | trailingText => "trailing characters"
  | tooDeep => "recursion limit exceeded"

/-- What keeps a text from being a value, and where it stands. -/
structure Fault where
  /-- What it is. -/
  cause : Fault.Cause
  /-- The line, counted from one. -/
  line : Nat
  /-- The number of bytes of the line up to the place. -/
  column : Nat
  deriving DecidableEq, Repr

/-- What a fault says. -/
def Fault.message (f : Fault) : String :=
  s!"{f.cause.message} at line {f.line} column {f.column}"

namespace Fault

/-- What stops a scan, and the number of bytes behind the place. -/
structure Stop where
  /-- What it is. -/
  cause : Cause
  /-- The number of bytes behind the place. -/
  unread : Nat

/-! ## Text values -/

/-- The unit in four hexadecimal digits, and what follows them. -/
def scanUnit : List Char → Except Stop (Nat × List Char)
  | a :: b :: c :: d :: rest =>
    match hex4? a b c d with
    | some u => .ok (u, rest)
    | none => .error ⟨.invalidEscape, rest.length⟩
  | _ => .error ⟨.endInString, 0⟩

/-- What follows a second half of a pair. -/
def scanSecondHalf : List Char → Except Stop (List Char)
  | [] | ['\\'] => .error ⟨.endInString, 0⟩
  | '\\' :: 'u' :: rest => do
    let (u, rest) ← scanUnit rest
    if isLowHalf u then .ok rest else .error ⟨.wrongHalf, rest.length⟩
  | '\\' :: _ :: rest | _ :: rest => .error ⟨.unfinishedPair, rest.length⟩

/-- What follows an escape whose backslash has been read. -/
def scanEscape : List Char → Except Stop (List Char)
  | [] => .error ⟨.endInString, 0⟩
  | 'u' :: rest => do
    let (u, rest) ← scanUnit rest
    if isLowHalf u then .error ⟨.wrongHalf, rest.length⟩
    else if isHighHalf u then scanSecondHalf rest
    else .ok rest
  | e :: rest => if (shortEscape? e).isSome then .ok rest else .error ⟨.invalidEscape, rest.length⟩

/-- What follows a text value whose opening quote has been read.  Every step takes one from
`fuel`. -/
def scanString : (fuel : Nat) → List Char → Except Stop (List Char)
  | 0, _ | _, [] => .error ⟨.endInString, 0⟩
  | fuel + 1, c :: rest =>
    if c = '"' then .ok rest
    else if c = '\\' then do scanString fuel (← scanEscape rest)
    else if c < ' ' then .error ⟨.controlCharacter, rest.length⟩
    else scanString fuel rest

/-! ## Numbers -/

/-- Why no numeral with its sign read starts a text.  A zero in front, a point and an exponent are
each looked at when they are reached. -/
def stopInNumeral (cs : List Char) : Stop :=
  match Numeral.digits cs with
  | ([], []) => ⟨.endInValue, 0⟩
  | ([], _ :: rest) => ⟨.invalidNumber, rest.length⟩
  | (0 :: _ :: _, _) => ⟨.invalidNumber, cs.length - 2⟩
  | (_, rest) =>
    match rest, Numeral.lexFraction rest with
    | ['.'], none => ⟨.endInValue, 0⟩
    | rest, none => ⟨.invalidNumber, rest.length - 2⟩
    | _, some (_, rest) =>
      match rest.drop 1 with
      | [] | ['+'] | ['-'] => ⟨.endInValue, 0⟩
      | '+' :: _ :: rest | '-' :: _ :: rest | _ :: rest => ⟨.invalidNumber, rest.length⟩

/-- The number of digits that stay unread if reading stops at the first digit that makes the number
larger than `limit`. -/
def unreadDigits (limit : Nat) : (read : Nat) → List Nat → Nat
  | _, [] => 0
  | n, d :: rest => if limit < n * 10 + d then rest.length else unreadDigits limit (n * 10 + d) rest

/-- What follows a number.  That it is out of range shows at its end, or where its exponent becomes
too large. -/
def scanNumber (cs : List Char) : Except Stop (List Char) :=
  match Numeral.lex cs with
  | some (n, rest) =>
    if n.value.isSome then .ok rest
    else
      let exponent := (n.exponent.map Prod.snd).getD []
      .error ⟨.numberOutOfRange, rest.length + unreadDigits Numeral.maxExponent 0 exponent⟩
  | none => .error (stopInNumeral (if cs.head? = some '-' then cs.tail else cs))

/-! ## Values -/

/-- What follows a word. -/
def scanWord : (word cs : List Char) → Except Stop (List Char)
  | [], cs => .ok cs
  | _ :: _, [] => .error ⟨.endInValue, 0⟩
  | w :: word, c :: cs => if w = c then scanWord word cs else .error ⟨.unknownWord, cs.length⟩

mutual

/-- What follows a value whose lists and objects are at most `depth` deep.  Every nested step takes
one from `fuel`. -/
def scanValue : (fuel depth : Nat) → List Char → Except Stop (List Char)
  | 0, _, _ => .error ⟨.endInValue, 0⟩
  | fuel + 1, depth, cs =>
    match skipSpace cs with
    | [] => .error ⟨.endInValue, 0⟩
    | '{' :: rest =>
      match depth with
      | 0 => .error ⟨.tooDeep, rest.length⟩
      | depth + 1 =>
        match skipSpace rest with
        | [] => .error ⟨.endInObject, 0⟩
        | '}' :: rest => .ok rest
        | '"' :: rest => scanMembers fuel depth rest
        | _ :: rest => .error ⟨.noName, rest.length⟩
    | '[' :: rest =>
      match depth with
      | 0 => .error ⟨.tooDeep, rest.length⟩
      | depth + 1 =>
        match skipSpace rest with
        | [] => .error ⟨.endInList, 0⟩
        | ']' :: rest => .ok rest
        | rest => scanItems fuel depth rest
    | '"' :: rest => scanString (rest.length + 1) rest
    | 'n' :: rest => scanWord ['u', 'l', 'l'] rest
    | 't' :: rest => scanWord ['r', 'u', 'e'] rest
    | 'f' :: rest => scanWord ['a', 'l', 's', 'e'] rest
    | c :: rest =>
      if c = '-' ∨ (Numeral.digit? c).isSome then scanNumber (c :: rest)
      else .error ⟨.noValue, rest.length⟩

/-- What follows the items of a list and its closing bracket; at least one. -/
def scanItems : (fuel depth : Nat) → List Char → Except Stop (List Char)
  | 0, _, _ => .error ⟨.endInList, 0⟩
  | fuel + 1, depth, cs => do
    match skipSpace (← scanValue fuel depth cs) with
    | [] => .error ⟨.endInList, 0⟩
    | ']' :: rest => .ok rest
    | ',' :: rest =>
      match skipSpace rest with
      | [] => .error ⟨.endInValue, 0⟩
      | ']' :: rest => .error ⟨.trailingComma, rest.length⟩
      | rest => scanItems fuel depth rest
    | _ :: rest => .error ⟨.noListEnd, rest.length⟩

/-- What follows the members of an object and its closing bracket, when the quote of the first name
has been read. -/
def scanMembers : (fuel depth : Nat) → List Char → Except Stop (List Char)
  | 0, _, _ => .error ⟨.endInObject, 0⟩
  | fuel + 1, depth, cs => do
    match skipSpace (← scanString (cs.length + 1) cs) with
    | [] => .error ⟨.endInObject, 0⟩
    | ':' :: rest =>
      match skipSpace (← scanValue fuel depth rest) with
      | [] => .error ⟨.endInObject, 0⟩
      | '}' :: rest => .ok rest
      | ',' :: rest =>
        match skipSpace rest with
        | [] => .error ⟨.endInValue, 0⟩
        | '"' :: rest => scanMembers fuel depth rest
        | '}' :: rest => .error ⟨.trailingComma, rest.length⟩
        | _ :: rest => .error ⟨.noName, rest.length⟩
      | _ :: rest => .error ⟨.noObjectEnd, rest.length⟩
    | _ :: rest => .error ⟨.noColon, rest.length⟩

end

/-- What stops the scan of a text that is not one value. -/
def scanText (cs : List Char) : Stop :=
  match scanValue (2 * cs.length + 2) Source.maxDepth cs with
  | .ok rest => ⟨.trailingText, (skipSpace rest).length - 1⟩
  | .error stop => stop

/-- The fault at the place in a text that has `unread` bytes behind it. -/
def ofStop (cs : List Char) (stop : Stop) : Fault :=
  let read := cs.take (cs.length - stop.unread)
  { cause := stop.cause
    line := read.count '\n' + 1
    column := (read.reverse.takeWhile (· ≠ '\n')).length }

/-- The first fault of a text that is not JSON. -/
def ofText (text : String) : Fault :=
  let cs := (Text.toBytes text).map fun b ↦ Char.ofNat b.toNat
  ofStop cs (scanText cs)

end Fault

end BearerAuth.Json
