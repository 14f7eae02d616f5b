import BearerAuth.CommandLine.Run

/-!
# What a run needs

The variables and files that a run of the program may ask for, as far as they can be told from those
that are known already.  A configuration is known to be needed at once, the variables that it refers
to once its text is known, and its key files once it can be read.
-/

namespace BearerAuth.CommandLine

/-- Variables and files. -/
structure Needs where
  /-- The names of variables. -/
  settings : List String := []
  /-- The paths of files. -/
  files : List String := []
  deriving DecidableEq, Repr

/-- How often new needs may show themselves: at once, with the program's own variables, with the
text of the configuration, and with the variables that it refers to. -/
def rounds : Nat := 4

/-- The places where the configuration of the site may be. -/
def configPlaces (env : Environment) : Option String → List String
  | some path => [path]
  | none =>
    (env.value? "AUTHN_CONFIG").toList ++ (Config.userPath? env).toList ++ [Config.localPath]

/-- The files of keys that a configuration names. -/
def keyPlaces : Config → List String
  | .jwt c => c.publicKeyPath.toList ++ c.privateKeyPath.toList
  | _ => []

/-- What the site needs. -/
def siteNeeds (env : Environment) (config : Option String) : Needs :=
  let place : Except ConfigFault String := match config with
    | some path => .ok path
    | none => Config.findPath env
  let text := place.bind fun path ↦ (env.readText path).mapError (.unreadable path)
  let names := match text with
    | .ok text => ((Json.ofText? text).map Config.namesInJson).getD []
    | .error _ => []
  let keys := match text.bind (Config.ofText env) with
    | .ok c => keyPlaces c
    | .error _ => []
  { settings := names, files := configPlaces env config ++ keys }

/-- What a run with some arguments needs. -/
def needs (env : Environment) (arguments : List String) : Needs :=
  let own : Needs := { settings := ["AUTHN_JWT_KEY", "AUTHN_CONFIG", "XDG_CONFIG_HOME"] }
  match Request.ofArguments env.value? arguments with
  | .run (.serve _ config) =>
    let site := siteNeeds env config
    { settings := own.settings ++ site.settings, files := site.files }
  | _ => own

end BearerAuth.CommandLine
