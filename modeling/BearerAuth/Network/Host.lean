import BearerAuth.Json.Reader
import BearerAuth.Text.Split
import BearerAuth.Text.Utf8

/-!
# Hosts

The host of an address is a domain or a number in one of two forms.  A domain whose last label is a
number has to be a number of the shorter form as a whole.

What the name of a domain is, if a text is one, is for the rules of international names to say.
They are tables of another library, so whatever reads an address is given them (`Names`).
-/

namespace BearerAuth.Network

/-- What is wrong with an address. -/
inductive UrlFault where
  /-- The address has no scheme. -/
  | relative
  /-- The address has no host, but needs one. -/
  | emptyHost
  /-- The domain is not a name. -/
  | domainName
  /-- The port is not a number, or too large. -/
  | port
  /-- The host is a malformed number of the shorter form. -/
  | ipv4
  /-- The host is a malformed number of the longer form. -/
  | ipv6
  /-- The host has a character that it must not have. -/
  | domainCharacter
  deriving DecidableEq, Repr

/-- The message of a fault. -/
def UrlFault.message : UrlFault → String
  | relative => "relative URL without a base"
  | emptyHost => "empty host"
  | domainName => "invalid international domain name"
  | port => "invalid port number"
  | ipv4 => "invalid IPv4 address"
  | ipv6 => "invalid IPv6 address"
  | domainCharacter => "invalid domain character"

/-- The rules of international names: the name of the domain that some bytes stand for, if they
stand for one. -/
abbrev Names : Type := List UInt8 → Option (List Char)

/-- A host. -/
inductive Host where
  /-- A name. -/
  | domain (name : List Char)
  /-- A number of 32 bits. -/
  | ipv4 (n : Nat)
  /-- Eight numbers of 16 bits. -/
  | ipv6 (groups : List Nat)
  deriving DecidableEq, Repr

namespace Host

/-! ## Numbers of the shorter form -/

/-- The number of some digits in a base; `none` if one is not a digit. -/
def digitsIn? (base : Nat) (cs : List Char) : Option Nat :=
  cs.foldlM (fun n c ↦ match Json.hexDigit? c with
    | some d => if d < base then some (n * base + d) else none
    | none => none) 0

/-- A part of a number: decimal, octal behind a zero, or hexadecimal behind `0x`. -/
def ipv4Part? : List Char → Option Nat
  | [] => none
  | '0' :: c :: rest =>
    if c = 'x' ∨ c = 'X' then digitsIn? 16 rest else digitsIn? 8 (c :: rest)
  | cs => digitsIn? 10 cs

/-- The parts of a domain; a point at the end does not count. -/
def labels (name : List Char) : List (List Char) :=
  match (Text.split '.' name).reverse with
  | [] :: rest => rest.reverse
  | parts => parts.reverse

/-- Whether the last label of a domain is a number. -/
def endsInNumber (name : List Char) : Bool :=
  match (labels name).getLast? with
  | none => false
  | some [] => false
  | some last => last.all (fun c ↦ '0' ≤ c && c ≤ '9') || (ipv4Part? last).isSome

/-- The number that up to four parts stand for: all but the last are bytes, and the last fills what
is left. -/
def ipv4? (name : List Char) : Option Nat := do
  let parts ← (labels name).mapM ipv4Part?
  let last ← parts.getLast?
  let front := parts.dropLast
  if 4 < parts.length ∨ 256 ^ (4 - front.length) ≤ last ∨ ¬front.all (· < 256) then none
  return front.foldl (fun n b ↦ n * 256 + b) 0 * 256 ^ (4 - front.length) + last

/-! ## Numbers of the longer form -/

/-- A decimal byte without zeros in front. -/
def byte? : List Char → Option Nat
  | [] => none
  | ['0'] => some 0
  | '0' :: _ => none
  | cs => (digitsIn? 10 cs).bind fun n ↦ if n < 256 then some n else none

/-- Four bytes with points between them, as two groups. -/
def dotted? (cs : List Char) : Option (List Nat) :=
  match (Text.split '.' cs).mapM byte? with
  | some [a, b, c, d] => some [a * 256 + b, c * 256 + d]
  | _ => none

/-- Groups with colons between them; the last may be written as four bytes. -/
def groups? : List (List Char) → Option (List Nat)
  | [] => some []
  | [last] =>
    if '.' ∈ last then dotted? last
    else if 1 ≤ last.length ∧ last.length ≤ 4 then (digitsIn? 16 last).map ([·]) else none
  | g :: rest =>
    if 1 ≤ g.length ∧ g.length ≤ 4 then do return (← digitsIn? 16 g) :: (← groups? rest) else none

/-- The text before the first double colon and the text after it. -/
def cutDouble? : List Char → Option (List Char × List Char)
  | ':' :: ':' :: rest => some ([], rest)
  | c :: rest => (cutDouble? rest).map fun (before, after) ↦ (c :: before, after)
  | [] => none

/-- The groups of one side of a double colon. -/
def side? (cs : List Char) : Option (List Nat) :=
  if cs = [] then some [] else groups? (Text.split ':' cs)

/-- Eight groups, of which one run of zeros may be left out. -/
def ipv6? (cs : List Char) : Option (List Nat) :=
  match cutDouble? cs with
  | none => (groups? (Text.split ':' cs)).bind fun l ↦ if l.length = 8 then some l else none
  | some (before, after) => do
    let front ← side? before
    let back ← side? after
    if '.' ∈ before ∨ 8 ≤ front.length + back.length then none
    return front ++ List.replicate (8 - front.length - back.length) 0 ++ back

/-! ## Names -/

/-- Bytes written as a percent sign and two hexadecimal digits are put in place. -/
def percentDecode : List Char → List UInt8
  | '%' :: a :: b :: rest =>
    match Json.hexDigit? a, Json.hexDigit? b with
    | some x, some y => UInt8.ofNat (x * 16 + y) :: percentDecode rest
    | _, _ => 0x25 :: percentDecode (a :: b :: rest)
  | c :: rest => Text.toBytes (String.ofList [c]) ++ percentDecode rest
  | [] => []

/-- The plain form of a character of a name: letters in lower case, the wide forms of ASCII as
ASCII, and the point of other scripts as a point. -/
def plainChar (c : Char) : Char :=
  let n := c.toNat
  let c := if 0xff01 ≤ n ∧ n ≤ 0xff5e then Char.ofNat (n - 0xfee0) else c
  if n = 0x3002 ∨ n = 0xff61 then '.' else c.toLower

/-- Whether a character cannot stand in a name. -/
def isForbidden (c : Char) : Bool :=
  c ≤ ' ' || c = '\x7f' || c ∈ "\"#%/:<>?@[\\]^`\x7b|\x7d".toList || c = Char.ofNat 0xfffd ||
    c = Char.ofNat 0xa0 || (0x2000 ≤ c.toNat && c.toNat ≤ 0x200a) || c = Char.ofNat 0x3000

/-- Whether a label that claims to encode other characters does: behind its last hyphen stand only
letters and digits, and at least one of them. -/
def isEncodedLabel (label : List Char) : Bool :=
  let tail := label.drop 4
  let code := (tail.reverse.takeWhile (· ≠ '-')).reverse
  !code.isEmpty && code.all fun c ↦ ('a' ≤ c && c ≤ 'z') || ('0' ≤ c && c ≤ '9')

/-- Rules without tables.  They say what names in ASCII stand for, unless a label claims to encode
other characters: of such a label they look at the form alone, and characters beyond ASCII they
leave as they are. -/
def plainNames : Names := fun bytes ↦ do
  let name := (← Text.ofBytes? bytes).toList.map plainChar
  if name.any isForbidden then none
  if (Text.split '.' name).any fun l ↦ "xn--".toList.isPrefixOf l && !isEncodedLabel l then none
  return name

/-- The number in brackets, if there is a closing one. -/
def bracketed (cs : List Char) : Except UrlFault Host :=
  match cs.reverse with
  | ']' :: inner =>
    match ipv6? inner.reverse with
    | some groups => .ok (.ipv6 groups)
    | none => .error .ipv6
  | _ => .error .ipv6

/-- The host of an address whose scheme has hosts of the usual kind. -/
def ofText (names : Names) : List Char → Except UrlFault Host
  | '[' :: rest => bracketed rest
  | cs =>
    match names (percentDecode cs) with
    | none => .error .domainName
    | some [] => .error .emptyHost
    | some name =>
      if endsInNumber name then
        match ipv4? name with
        | some n => .ok (.ipv4 n)
        | none => .error .ipv4
      else .ok (.domain name)

/-- The host of an address of another scheme, which may be almost any text. -/
def ofOpaqueText : List Char → Except UrlFault Host
  | '[' :: rest => bracketed rest
  | cs =>
    if cs.any fun c ↦ c ∈ "\x00\t\n\r #/:<>?@[\\]^|".toList then .error .domainCharacter
    else .ok (.domain cs)

/-! ## Text -/

/-- The text of a group. -/
def hexText (n : Nat) : List Char := Nat.toDigits 16 n

/-- The longest run of zeros, the first of several: its place and its length. -/
def longestZeros (groups : List Nat) : Nat × Nat :=
  (List.range groups.length).foldl (fun best i ↦
    let run := ((groups.drop i).takeWhile (· = 0)).length
    if best.2 < run then (i, run) else best) (0, 0)

/-- The text of a host. -/
def toText : Host → List Char
  | .domain name => name
  | .ipv4 n =>
    ['.'].intercalate ([n / 16777216, n / 65536 % 256, n / 256 % 256, n % 256].map fun b ↦
      b.repr.toList)
  | .ipv6 groups =>
    let join (l : List Nat) := [':'].intercalate (l.map hexText)
    let (place, run) := longestZeros groups
    let inner := if 2 ≤ run then join (groups.take place) ++ ':' :: ':' ::
        join (groups.drop (place + run))
      else join groups
    '[' :: inner ++ [']']

end Host

end BearerAuth.Network
