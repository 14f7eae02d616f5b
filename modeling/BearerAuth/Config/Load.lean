import BearerAuth.Authenticator
import BearerAuth.Config.Basic
import BearerAuth.Config.Expansion
import BearerAuth.Environment.Basic
import BearerAuth.Json.Fault
import BearerAuth.Json.Reader
import BearerAuth.Key.File

/-!
# From a file to an authenticator

A configuration is looked for in a fixed order of places, read, expanded with the variables of the
environment and only then given a shape, so that no value of a variable can change the shape.  What
it selects is then built: keys are read from their files, and an identity provider is asked.
-/

namespace BearerAuth

/-- Why there is no authenticator of a configuration. -/
inductive ConfigFault where
  /-- There is no configuration in any place. -/
  | notFound
  /-- A configuration cannot be read. -/
  | unreadable (path : String) (fault : FileFault)
  /-- A configuration is not JSON. -/
  | notJson (fault : Json.Fault)
  /-- A configuration is misshapen. -/
  | misshapen (fault : Config.ShapeFault)
  /-- An algorithm is not known. -/
  | unknownAlgorithm (name : String)
  /-- An algorithm needs a shared secret. -/
  | keyRequired (a : Token.Algorithm)
  /-- An algorithm needs a public key. -/
  | publicKeyRequired (a : Token.Algorithm)
  /-- A key cannot be read. -/
  | unreadableKey (path : String) (fault : FileFault)
  /-- A public key makes no sense. -/
  | invalidPublicKey (path : String) (fault : Token.Fault)
  /-- The authenticator is refused. -/
  | refused (e : AuthError)

/-- The messages of a fault, each followed by its cause. -/
def ConfigFault.messages : ConfigFault → List String
  | notFound => ["Could not find authn.json (set AUTHN_CONFIG or create ./authn.json)"]
  | unreadable path fault => ["failed to read " ++ path, fault.message]
  | notJson fault => ["invalid authenticator config JSON", fault.message]
  | misshapen fault => ["invalid authenticator config", fault.message]
  | unknownAlgorithm name => ["unknown signing algorithm `" ++ name ++ "`"]
  | keyRequired a => ["`key` is required for " ++ a.name]
  | publicKeyRequired a => ["`public_key_path` is required for " ++ a.name]
  | unreadableKey path fault => ["failed to read key " ++ path, fault.message]
  | invalidPublicKey path fault => ["invalid public key " ++ path, fault.name]
  | refused e => [e.message]

namespace Config

/-! ## Loading -/

/-- The configuration of a text. -/
def ofText (env : Environment) (text : String) : Except ConfigFault Config :=
  match Json.ofText? text with
  | none => .error (.notJson (Json.Fault.ofText text))
  | some doc => (ofJson (expandJson env.value? doc)).mapError .misshapen

/-- The configuration in a file. -/
def load (env : Environment) (path : String) : Except ConfigFault Config := do
  ofText env (← (env.readText path).mapError (.unreadable path))

/-- The place for configurations of a user. -/
def userPath? (env : Environment) : Option String :=
  (env.value? "XDG_CONFIG_HOME").map fun home ↦ joinPath (joinPath home "authn") "authn.json"

/-- The place for configurations of a directory. -/
def localPath : String := "authn.json"

/-- Where the configuration is: where a variable says, else in the place of the user, else in the
working directory.  Only the first need not be there. -/
def findPath (env : Environment) : Except ConfigFault String :=
  match env.value? "AUTHN_CONFIG" with
  | some path => .ok path
  | none =>
    match (userPath? env).filter env.contains with
    | some path => .ok path
    | none => if env.contains localPath then .ok localPath else .error .notFound

/-- The configuration in the first of its places. -/
def loadDefault (env : Environment) : Except ConfigFault Config := do
  load env (← findPath env)

/-! ## Building -/

/-- The nanoseconds of some seconds. -/
def nanosOf (seconds : UInt64) : Nat := seconds.toNat * 1000000000

/-- The algorithm of a name. -/
def readAlgorithm (name : String) : Except ConfigFault Token.Algorithm :=
  match Token.Algorithm.ofName? name with
  | some a => .ok a
  | none => .error (.unknownAlgorithm name)

/-- The bytes of a key file. -/
def readKeyFile (env : Environment) (path : String) : Except ConfigFault (List UInt8) :=
  (env.read path).mapError (.unreadableKey path)

/-- The key that a configuration of signed tokens names for an algorithm: a shared secret, or the
keys in its files, the public one being read first. -/
def keyPair (env : Environment) (c : JwtConfig) (a : Token.Algorithm) :
    Except ConfigFault KeyPair :=
  if a.family = .hmac then
    match c.key with
    | some key => .ok (.ofSecret (Text.toBytes key))
    | none => .error (.keyRequired a)
  else
    match c.publicKeyPath with
    | none => .error (.publicKeyRequired a)
    | some publicPath => do
      let publicFile ← readKeyFile env publicPath
      match c.privateKeyPath with
      | some privatePath =>
        let privateFile ← readKeyFile env privatePath
        (if a.family = .ec then KeyPair.ofEcFiles privateFile publicFile
          else KeyPair.ofRsaFiles privateFile publicFile).mapError .refused
      | none =>
        let key ← (if a.family = .ec then VerifyingKey.ofEcFile publicFile
          else VerifyingKey.ofRsaFile publicFile).mapError (.invalidPublicKey publicPath)
        return .verifyOnly key

/-- The options of a configuration of signed tokens. -/
def jwtOptions (env : Environment) (c : JwtConfig) : Except ConfigFault JwtOptions := do
  let algorithm ← readAlgorithm c.algorithm
  let key ← keyPair env c algorithm
  return {
    algorithm
    resolver := some fun _ ↦ some key
    keyId := c.keyId
    leeway := nanosOf c.leewaySeconds }

/-- The options of a configuration of an identity provider.  How long to wait is left to the
network: a response that does not come in time is none. -/
def oidcOptions (c : OidcConfig) : Except ConfigFault OidcOptions := do
  return {
    issuerUrl := c.issuerUrl
    audience := c.audience
    algorithm := ← readAlgorithm c.algorithm
    refreshInterval := (c.refreshIntervalSeconds.map nanosOf).getD Oidc.RemoteKeySet.defaultInterval
    leeway := nanosOf c.leewaySeconds }

/-- The authenticator that a configuration selects. -/
def build (env : Environment) (names : Network.Names) (pages : Network.Pages) (c : Config) :
    Except ConfigFault Authenticator :=
  match c with
  | noop => .ok .noop
  | jwt c => do
    return .jwt (← (JwtAuthenticator.ofOptions (← jwtOptions env c)).mapError .refused)
  | oidc c => do
    return .oidc (← (OidcAuthenticator.connect names pages (← oidcOptions c)).mapError .refused)
  | preSharedKeys keys => .ok (.preSharedKeys (.ofList keys))

end Config

end BearerAuth
