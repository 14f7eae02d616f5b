import BearerAuth.CommandLine.Arguments
import BearerAuth.Power
import BearerAuth.Text.Numeral

/-!
# Commands

The program issues a token, verifies one, shows the document of an identity provider, or serves its
site.
-/

namespace BearerAuth.CommandLine

/-- What the program is asked to do. -/
inductive Command where
  /-- To issue a token under a shared secret. -/
  | mint (key algorithm : String) (subject : Option String) (scopes : List String)
      (lifetime : Option Int) (tokenId : Bool)
  /-- To verify a token under a shared secret. -/
  | verify (key algorithm token : String)
  /-- To show the document of an identity provider. -/
  | discover (issuer : String) (timeoutSeconds : Nat)
  /-- To serve the site. -/
  | serve (bind : String) (config : Option String)
  deriving DecidableEq, Repr

/-- The name of the program. -/
def programName : String := "authn"

/-- What the program does. -/
def programAbout : String := "Issue, verify and serve bearer credentials"

/-- The option for the shared secret. -/
def keyOption : Opt where
  name := "key"
  value := some "KEY"
  required := true
  variableName := some "AUTHN_JWT_KEY"

/-- The option for the algorithm. -/
def algorithmOption : Opt where
  name := "alg"
  value := some "ALG"
  default := some "HS256"

/-- The lifetime that a text gives: a whole number of 64 bits. -/
def lifetimeOf? (s : String) : Option Int := Text.intOfText? (2 ^ 63) s

/-- The waiting time that a text gives: a whole number of 64 bits, not negative. -/
def timeoutOf? (s : String) : Option Nat := Text.natOfText? (2 ^ 64) s

/-- What `mint` takes. -/
def mintGrammar : Grammar where
  name := "mint"
  about := "Issue a JWT with a shared secret"
  options := [keyOption, algorithmOption,
    { name := "sub", value := some "SUB" },
    { name := "scope", value := some "SCOPES", repeatable := true,
      about := "Granted scope (repeatable)" },
    { name := "exp-secs", value := some "EXP_SECS", accepts := fun s ↦ (lifetimeOf? s).isSome,
      about := "Lifetime in seconds (omit for a token without `exp`)" },
    { name := "jti", about := "Add a random `jti`" }]

/-- What `verify` takes. -/
def verifyGrammar : Grammar where
  name := "verify"
  about := "Verify a JWT and print its claims"
  options := [keyOption, algorithmOption]
  positionals := ["<TOKEN>"]

/-- What `discover` takes. -/
def discoverGrammar : Grammar where
  name := "discover"
  about := "Print the discovery document of an OIDC issuer"
  options := [
    { name := "issuer", value := some "ISSUER", required := true },
    { name := "timeout-secs", value := some "TIMEOUT_SECS", default := some "10",
      accepts := fun s ↦ (timeoutOf? s).isSome }]

/-- What `serve` takes. -/
def serveGrammar : Grammar where
  name := "serve"
  about := "Serve `/whoami` behind the configured authenticator"
  options := [
    { name := "bind", value := some "BIND", default := some "127.0.0.1:3000" },
    { name := "config", value := some "CONFIG", accepts := fun s ↦ s ≠ "",
      about := "Config file (defaults to AUTHN_CONFIG / XDG / ./authn.json)" }]

/-- What each command takes. -/
def grammars : List Grammar := [mintGrammar, verifyGrammar, discoverGrammar, serveGrammar]

/-- The command of arguments that a grammar has accepted. -/
def Command.ofGiven? (gr : Grammar) (g : Given) : Option Command :=
  let value? (name : String) : Option String := (g.values name).head?
  match gr.name with
  | "mint" => do
    return .mint (← value? "key") (← value? "alg") (value? "sub") (g.values "scope")
      ((value? "exp-secs").bind lifetimeOf?) (g.has "jti")
  | "verify" => do return .verify (← value? "key") (← value? "alg") (← g.positionals.head?)
  | "discover" => do
    return .discover (← value? "issuer") (← (value? "timeout-secs").bind timeoutOf?)
  | "serve" => do return .serve (← value? "bind") (value? "config")
  | _ => none

/-- What the arguments of the program ask for. -/
inductive Request where
  /-- To carry out a command. -/
  | run (c : Command)
  /-- To show help on the whole program. -/
  | help
  /-- To show help on a command. -/
  | helpOn (gr : Grammar)
  /-- To show help on help. -/
  | helpOnHelp
  /-- What is asked for makes no sense. -/
  | refuse (fault : UsageFault)

/-- What the arguments of a command ask for. -/
def readCommand (gr : Grammar) (lookup : String → Option String) (arguments : List String) :
    Request :=
  match gr.read lookup arguments with
  | .error .help => .helpOn gr
  | .error (.usage fault) => .refuse fault
  | .ok g =>
    match Command.ofGiven? gr g with
    | some c => .run c
    | none => .refuse .noCommand

/-- What the arguments behind the word `help` ask for. -/
def readHelp : List String → Request
  | [] => .help
  | ["help"] => .helpOnHelp
  | [name] =>
    match grammars.find? (·.name = name) with
    | some gr => .helpOn gr
    | none => .refuse (.unknownCommand name)
  | name :: next :: _ =>
    if name = "help" ∨ grammars.any (·.name = name) then .refuse (.unknownCommand next)
    else .refuse (.unknownCommand name)

/-- What the arguments of the program ask for. -/
def Request.ofArguments (lookup : String → Option String) : List String → Request
  | [] => .refuse .noCommand
  | argument :: rest =>
    match Look.of argument with
    | .long "help" none | .short ('h' :: _) => .help
    | .divider => .refuse .noCommand
    | .plain =>
      if argument = "help" then readHelp rest
      else match grammars.find? (·.name = argument) with
        | some gr => readCommand gr lookup rest
        | none => .refuse (.unknownCommand argument)
    | _ => .refuse (.unexpected argument)

end BearerAuth.CommandLine
