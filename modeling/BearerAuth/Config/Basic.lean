import BearerAuth.Config.Form

/-!
# Configurations

A configuration selects a backend and says how it is made.  In a document it is an object with a
member `type`, which names the backend, and the fields of that backend; or a list that begins with
the name.
-/

namespace BearerAuth

/-- How signed tokens are made and accepted. -/
structure JwtConfig where
  /-- The name of the algorithm. -/
  algorithm : String := "HS256"
  /-- The shared secret, for algorithms that use one. -/
  key : Option String := none
  /-- Where the private key is; without it tokens are only accepted. -/
  privateKeyPath : Option String := none
  /-- Where the public key is. -/
  publicKeyPath : Option String := none
  /-- The identifier of the key. -/
  keyId : Option String := none
  /-- How far clocks may differ, in seconds. -/
  leewaySeconds : UInt64 := 0
  deriving DecidableEq, Repr

/-- How the tokens of an identity provider are accepted. -/
structure OidcConfig where
  /-- The address of the provider. -/
  issuerUrl : String
  /-- For whom tokens have to be. -/
  audience : String
  /-- The name of the algorithm. -/
  algorithm : String := "RS256"
  /-- The time between two attempts to refresh the keys, in seconds. -/
  refreshIntervalSeconds : Option UInt64 := none
  /-- How long to wait for a response, in seconds. -/
  httpTimeoutSeconds : Option UInt64 := none
  /-- How far clocks may differ, in seconds. -/
  leewaySeconds : UInt64 := 0
  deriving DecidableEq, Repr

/-- The selection of a backend. -/
inductive Config where
  /-- Everything is accepted. -/
  | noop
  /-- Signed tokens. -/
  | jwt (c : JwtConfig)
  /-- The tokens of an identity provider. -/
  | oidc (c : OidcConfig)
  /-- Pre-shared keys. -/
  | preSharedKeys (keys : List String)
  deriving DecidableEq, Repr

namespace Config

/-! ## Writing -/

/-- The name of the backend. -/
def kind : Config → String
  | noop => "noop"
  | jwt _ => "jwt"
  | oidc _ => "oidc"
  | preSharedKeys _ => "pre_shared_key"

/-- The names of all backends. -/
def kinds : List String := ["noop", "jwt", "oidc", "pre_shared_key"]

/-- A number as a value. -/
def numberJson (n : UInt64) : Json := .ofInt n.toNat

/-- A number or `null`. -/
def numberOrNull : Option UInt64 → Json
  | some n => numberJson n
  | none => .null

/-- The document of a configuration, with all fields. -/
def toJson (c : Config) : Json :=
  match c with
  | noop => .object [("type", .string c.kind)]
  | jwt j => .object [("algorithm", .string j.algorithm), ("key", .stringOrNull j.key),
      ("key_id", .stringOrNull j.keyId), ("leeway_secs", numberJson j.leewaySeconds),
      ("private_key_path", .stringOrNull j.privateKeyPath),
      ("public_key_path", .stringOrNull j.publicKeyPath), ("type", .string c.kind)]
  | oidc o => .object [("algorithm", .string o.algorithm), ("audience", .string o.audience),
      ("http_timeout_secs", numberOrNull o.httpTimeoutSeconds), ("issuer_url", .string o.issuerUrl),
      ("leeway_secs", numberJson o.leewaySeconds),
      ("refresh_interval_secs", numberOrNull o.refreshIntervalSeconds), ("type", .string c.kind)]
  | preSharedKeys keys => .object [("keys", .ofStrings keys), ("type", .string c.kind)]

/-! ## Reading -/

/-- The fields for signed tokens. -/
def jwtForm : Form JwtConfig where
  name := "JwtConfig"
  fields := [
    ⟨"algorithm", fun c v ↦ return { c with algorithm := ← readText "a string" v }⟩,
    ⟨"key", fun c v ↦ return { c with key := ← readOptional (readText "a string") v }⟩,
    ⟨"private_key_path", fun c v ↦
      return { c with privateKeyPath := ← readOptional (readText "path string") v }⟩,
    ⟨"public_key_path", fun c v ↦
      return { c with publicKeyPath := ← readOptional (readText "path string") v }⟩,
    ⟨"key_id", fun c v ↦ return { c with keyId := ← readOptional (readText "a string") v }⟩,
    ⟨"leeway_secs", fun c v ↦ return { c with leewaySeconds := ← readNumber v }⟩]
  required := []
  blank := {}

/-- The fields for an identity provider. -/
def oidcForm : Form OidcConfig where
  name := "OidcConfig"
  fields := [
    ⟨"issuer_url", fun c v ↦ return { c with issuerUrl := ← readText "a string" v }⟩,
    ⟨"audience", fun c v ↦ return { c with audience := ← readText "a string" v }⟩,
    ⟨"algorithm", fun c v ↦ return { c with algorithm := ← readText "a string" v }⟩,
    ⟨"refresh_interval_secs", fun c v ↦
      return { c with refreshIntervalSeconds := ← readOptional readNumber v }⟩,
    ⟨"http_timeout_secs", fun c v ↦
      return { c with httpTimeoutSeconds := ← readOptional readNumber v }⟩,
    ⟨"leeway_secs", fun c v ↦ return { c with leewaySeconds := ← readNumber v }⟩]
  required := ["issuer_url", "audience"]
  blank := { issuerUrl := "", audience := "" }

/-- The field for pre-shared keys. -/
def preSharedKeysForm : Form (List String) where
  name := "PreSharedKeyConfig"
  fields := [⟨"keys", fun _ v ↦ readTexts v⟩]
  required := []
  blank := []

/-- The name of a backend. -/
def readKind (v : Json) : Except ShapeFault String := do
  let name ← readText "variant identifier" v
  if name ∈ kinds then return name else .error (.unknownName name kinds)

/-- The configuration of an object. -/
def ofMembers (members : List (String × Json)) : Except ShapeFault Config :=
  match members.lookup "type" with
  | none => .error (.missing "type")
  | some tag => do
    match ← readKind tag with
    | "jwt" => return .jwt (← jwtForm.ofMembers members)
    | "oidc" => return .oidc (← oidcForm.ofMembers members)
    | "pre_shared_key" => return .preSharedKeys (← preSharedKeysForm.ofMembers members)
    | _ => return .noop

/-- The configuration of a list. -/
def ofItems : List Json → Except ShapeFault Config
  | [] => .error (.missing "type")
  | tag :: items => do
    match ← readKind tag with
    | "jwt" => return .jwt (← jwtForm.ofItems items)
    | "oidc" => return .oidc (← oidcForm.ofItems items)
    | "pre_shared_key" => return .preSharedKeys (← preSharedKeysForm.ofItems items)
    | _ => if items = [] then return .noop else .error (.tooLong items.length 0)

/-- The configuration of a document. -/
def ofJson : Json → Except ShapeFault Config
  | .object members => ofMembers members
  | .array items => ofItems items
  | v => .error (.type v "internally tagged enum AuthConfig")

end Config

end BearerAuth
