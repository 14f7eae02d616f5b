import BearerAuth.Network.Host

/-!
# Addresses

An address is read the way browsers do: space around it is dropped, scheme and host lose their case,
the usual port of a scheme is left out, and the path loses its dots.  Schemes of the usual kind need
a host; other schemes may go without.
-/

namespace BearerAuth.Network

/-- An address. -/
structure Url where
  /-- The scheme, in lower case. -/
  scheme : String
  /-- The host, if the address has one. -/
  host : Option Host
  /-- The port, unless it is the usual one of the scheme. -/
  port : Option Nat
  /-- The path. -/
  path : List Char
  /-- What follows the question mark. -/
  query : Option (List Char)
  deriving DecidableEq, Repr

namespace Url

/-- The schemes of the usual kind with their ports; files have none. -/
def specialPorts : List (String × Option Nat) :=
  [("http", some 80), ("https", some 443), ("ws", some 80), ("wss", some 443), ("ftp", some 21),
    ("file", none)]

/-- Whether a scheme is of the usual kind. -/
def isSpecial (scheme : String) : Bool := (specialPorts.lookup scheme).isSome

/-- The address without what readers drop: space and control characters at both ends, and line
breaks and tabulators anywhere. -/
def strip (cs : List Char) : List Char :=
  let front := cs.dropWhile (· ≤ ' ')
  let both := (front.reverse.dropWhile (· ≤ ' ')).reverse
  both.filter fun c ↦ c ≠ '\t' && c ≠ '\n' && c ≠ '\r'

/-- Whether a character may stand in a scheme. -/
def isSchemeChar (c : Char) : Bool :=
  ('a' ≤ c && c ≤ 'z') || ('A' ≤ c && c ≤ 'Z') || ('0' ≤ c && c ≤ '9') || c ∈ ['+', '-', '.']

/-- The scheme in front of an address, in lower case, and what follows its colon. -/
def scheme? (cs : List Char) : Option (String × List Char) :=
  match cs.span isSchemeChar with
  | (c :: name, ':' :: rest) =>
    if ('a' ≤ c.toLower && c.toLower ≤ 'z') then
      some (String.ofList ((c :: name).map Char.toLower), rest)
    else none
  | _ => none

/-- Whether a character ends the part of an address with the host. -/
def endsAuthority (special : Bool) (c : Char) : Bool :=
  c = '/' || c = '?' || c = '#' || (special && c = '\\')

/-- Characters that are written as bytes in a path. -/
def isPathUnsafe (c : Char) : Bool :=
  c ≤ ' ' || '~' < c || c ∈ "\"#<>?^`\x7b\x7d".toList

/-- Characters that are written as bytes in a query. -/
def isQueryUnsafe (special : Bool) (c : Char) : Bool :=
  c ≤ ' ' || '~' < c || c ∈ "\"#<>".toList || (special && c = '\'')

/-- The upper case hexadecimal digit of a number below sixteen. -/
def upperHexDigit (n : Nat) : Char :=
  if n < 10 then Char.ofNat ('0'.toNat + n) else Char.ofNat ('A'.toNat + (n - 10))

/-- The text with its unsafe characters written as bytes. -/
def percentEncode (isUnsafe : Char → Bool) (cs : List Char) : List Char :=
  cs.flatMap fun c ↦
    if isUnsafe c then
      (Text.toBytes (String.ofList [c])).flatMap fun b ↦
        ['%', upperHexDigit (b.toNat / 16), upperHexDigit (b.toNat % 16)]
    else [c]

/-- A segment of a path in which dots may be written as bytes. -/
def plainDots : List Char → List Char
  | '%' :: '2' :: e :: rest =>
    if e = 'e' ∨ e = 'E' then '.' :: plainDots rest else '%' :: '2' :: e :: plainDots rest
  | c :: rest => c :: plainDots rest
  | [] => []

/-- The segments of a path without dots that stand for this or the upper place; `done` holds the
segments so far in reverse order. -/
def removeDots (done : List (List Char)) : List (List Char) → List (List Char)
  | [] => done.reverse
  | [last] =>
    if plainDots last = ['.', '.'] then ([] :: done.tail).reverse
    else if plainDots last = ['.'] then ([] :: done).reverse
    else (percentEncode isPathUnsafe last :: done).reverse
  | segment :: rest =>
    if plainDots segment = ['.', '.'] then removeDots done.tail rest
    else if plainDots segment = ['.'] then removeDots done rest
    else removeDots (percentEncode isPathUnsafe segment :: done) rest

/-- The path of an address with a host. -/
def hierarchicalPath (special : Bool) (cs : List Char) : List Char :=
  let cs := if special then cs.map fun c ↦ if c = '\\' then '/' else c else cs
  match cs with
  | [] => if special then ['/'] else []
  | '/' :: rest => '/' :: ['/'].intercalate (removeDots [] (Text.split '/' rest))
  | cs => '/' :: ['/'].intercalate (removeDots [] (Text.split '/' cs))

/-- The path and the query of an address, without its fragment. -/
def splitQuery (special : Bool) (cs : List Char) : List Char × Option (List Char) :=
  let cs := cs.takeWhile (· ≠ '#')
  match Text.splitOnce? '?' cs with
  | some (path, query) => (path, some (percentEncode (isQueryUnsafe special) query))
  | none => (cs, none)

/-- What follows the last at sign; fails if nothing stands before it and no host behind it. -/
def dropUserInfo (authority : List Char) : Except UrlFault (List Char) :=
  match authority.reverse.span (· ≠ '@') with
  | (_, []) => .ok authority
  | ([], _) => .error .emptyHost
  | (host, _) => .ok host.reverse

/-- The host's text and the port's text, if there is one.  A colon in brackets does not count. -/
def splitPort : (inBrackets : Bool) → List Char → List Char × Option (List Char)
  | _, [] => ([], none)
  | inBrackets, c :: rest =>
    if c = ':' ∧ ¬inBrackets then ([], some rest)
    else
      let inside := if c = '[' then true else if c = ']' then false else inBrackets
      let (host, port) := splitPort inside rest
      (c :: host, port)

/-- The port of a text; the usual one of the scheme, or none at all, is left out. -/
def readPort (scheme : String) (cs : List Char) : Except UrlFault (Option Nat) :=
  if cs = [] then .ok none
  else match Host.digitsIn? 10 cs with
    | none => .error .port
    | some n =>
      if 65535 < n then .error .port
      else if specialPorts.lookup scheme = some (some n) then .ok none
      else .ok (some n)

/-- The address behind the two slashes of a scheme. -/
def withAuthority (names : Names) (scheme : String) (cs : List Char) : Except UrlFault Url := do
  let special := isSpecial scheme
  let (authority, rest) := cs.span (!endsAuthority special ·)
  let hostAndPort ← dropUserInfo authority
  let (hostText, portText) := splitPort false hostAndPort
  let (path, query) := splitQuery special rest
  let path := hierarchicalPath special path
  if hostText = [] then
    if special ∨ portText.isSome ∨ hostAndPort.length < authority.length then .error .emptyHost
    else return ⟨scheme, none, none, path, query⟩
  else
    let host ← if special then Host.ofText names hostText else Host.ofOpaqueText hostText
    let port ← match portText with
      | some cs => readPort scheme cs
      | none => .ok none
    return ⟨scheme, some host, port, path, query⟩

/-- The address of a file. -/
def ofFile (names : Names) (cs : List Char) : Except UrlFault Url := do
  let isSlash (c : Char) : Bool := c = '/' || c = '\\'
  let (authority, rest) := match cs with
    | a :: b :: rest =>
      if isSlash a && isSlash b then rest.span (!endsAuthority true ·) else ([], cs)
    | cs => ([], cs)
  let (path, query) := splitQuery true rest
  let host ← if authority = [] then .ok none else (Host.ofText names authority).map some
  return ⟨"file", host, none, hierarchicalPath true path, query⟩

/-- The address of a text. -/
def ofText (names : Names) (text : String) : Except UrlFault Url :=
  match scheme? (strip text.toList) with
  | none => .error .relative
  | some (scheme, rest) =>
    if scheme = "file" then ofFile names rest
    else if isSpecial scheme then
      withAuthority names scheme (rest.dropWhile fun c ↦ c = '/' || c = '\\')
    else match rest with
      | '/' :: '/' :: rest => withAuthority names scheme rest
      | rest =>
        let (path, query) := splitQuery false rest
        let path := if rest.head? = some '/' then hierarchicalPath false path else path
        .ok ⟨scheme, none, none, path, query⟩

/-- The text of an address. -/
def toText (u : Url) : String :=
  let authority := match u.host with
    | none => []
    | some host => '/' :: '/' :: (host.toText ++ match u.port with
      | some n => ':' :: n.repr.toList
      | none => [])
  let query := match u.query with
    | some q => '?' :: q
    | none => []
  u.scheme ++ ":" ++ String.ofList (authority ++ u.path ++ query)

end Url

end BearerAuth.Network
