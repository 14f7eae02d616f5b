import BearerAuth.Crypto.Sha2

/-!
# Signature algorithms

The algorithms that a token may declare.  Each belongs to a family, and a key serves one family.
-/

namespace BearerAuth.Token

/-- A signature algorithm. -/
inductive Algorithm where
  /-- Keyed hash of 256 bits. -/
  | hs256
  /-- Keyed hash of 384 bits. -/
  | hs384
  /-- Keyed hash of 512 bits. -/
  | hs512
  /-- RSA in the older way, hash of 256 bits. -/
  | rs256
  /-- RSA in the older way, hash of 384 bits. -/
  | rs384
  /-- RSA in the older way, hash of 512 bits. -/
  | rs512
  /-- RSA in the probabilistic way, hash of 256 bits. -/
  | ps256
  /-- RSA in the probabilistic way, hash of 384 bits. -/
  | ps384
  /-- RSA in the probabilistic way, hash of 512 bits. -/
  | ps512
  /-- Elliptic curve of 256 bits. -/
  | es256
  /-- Elliptic curve of 384 bits. -/
  | es384
  /-- Edwards curve. -/
  | eddsa
  deriving DecidableEq, Repr

/-- The families of keys. -/
inductive Family where
  /-- A shared secret. -/
  | hmac
  /-- RSA. -/
  | rsa
  /-- Elliptic curves. -/
  | ec
  /-- Edwards curves. -/
  | ed
  deriving DecidableEq, Repr

namespace Algorithm

/-- All algorithms. -/
def all : List Algorithm :=
  [hs256, hs384, hs512, rs256, rs384, rs512, ps256, ps384, ps512, es256, es384, eddsa]

/-- The name of an algorithm. -/
def name : Algorithm → String
  | hs256 => "HS256"
  | hs384 => "HS384"
  | hs512 => "HS512"
  | rs256 => "RS256"
  | rs384 => "RS384"
  | rs512 => "RS512"
  | ps256 => "PS256"
  | ps384 => "PS384"
  | ps512 => "PS512"
  | es256 => "ES256"
  | es384 => "ES384"
  | eddsa => "EdDSA"

/-- The algorithm of a name. -/
def ofName? (name : String) : Option Algorithm := all.find? (·.name = name)

/-- Names are told apart. -/
@[simp] theorem ofName?_name (a : Algorithm) : ofName? a.name = some a := by
  cases a <;> decide

/-- The family whose keys an algorithm uses. -/
def family : Algorithm → Family
  | hs256 | hs384 | hs512 => .hmac
  | rs256 | rs384 | rs512 | ps256 | ps384 | ps512 => .rsa
  | es256 | es384 => .ec
  | eddsa => .ed

/-- The hash that an algorithm uses; an Edwards curve brings its own. -/
def hash? : Algorithm → Option Sha2.Variant
  | hs256 | rs256 | ps256 | es256 => some Sha2.sha256
  | hs384 | rs384 | ps384 | es384 => some Sha2.sha384
  | hs512 | rs512 | ps512 => some Sha2.sha512
  | eddsa => none

end Algorithm

end BearerAuth.Token
