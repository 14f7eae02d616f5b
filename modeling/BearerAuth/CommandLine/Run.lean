import BearerAuth.CommandLine.Help
import BearerAuth.Config.Load
import BearerAuth.Service.Site
import BearerAuth.Text.Uuid

/-!
# Running commands

What a command writes, and with which status the program ends: 0 if all went well, 1 if something is
reported, 2 if the arguments make no sense.  A lifetime that leads out of the calendar is not
reported: there the program breaks off.  A command that serves the site does not end; what is left
to do is to answer requests.
-/

namespace BearerAuth.CommandLine

/-- How the program ends. -/
structure Outcome where
  /-- The status. -/
  status : Nat
  /-- What is written to the output. -/
  output : String := ""
  /-- What is written to the log of errors. -/
  complaint : String := ""
  deriving DecidableEq, Repr

/-- What a command comes to. -/
inductive Result where
  /-- The program ends. -/
  | ended (o : Outcome)
  /-- The site is to be served. -/
  | serving (a : Authenticator)

/-- A command that comes to an end, reporting an error by its message and causes. -/
abbrev Action : Type → Type := Except (List String)

/-! ## Reports -/

/-- A cause as a report shows it: each line set in. -/
def indented (number : Option Nat) (text : String) : String :=
  let first := match number with
    | some n => String.ofList (List.replicate (5 - n.repr.length) ' ') ++ n.repr ++ ": "
    | none => "    "
  let others := match number with
    | some _ => "\n       "
    | none => "\n    "
  first ++ others.intercalate ((Text.split '\n' text.toList).map String.ofList)

/-- The report of an error: its message and, below it, the causes; several are numbered. -/
def report : List String → String
  | [] => "Error: \n"
  | [message] => "Error: " ++ message ++ "\n"
  | [message, cause] => "Error: " ++ message ++ "\n\nCaused by:\n" ++ indented none cause ++ "\n"
  | message :: causes =>
    "Error: " ++ message ++ "\n\nCaused by:\n" ++
      lines (causes.mapIdx fun i cause ↦ indented (some i) cause)

namespace Outcome

/-- Something was written, and all went well. -/
def done (output : String) : Outcome := { status := 0, output }

/-- An error is reported. -/
def failed (messages : List String) : Outcome := { status := 1, complaint := report messages }

/-- The arguments make no sense. -/
def misused (fault : UsageFault) : Outcome :=
  { status := 2, complaint := "error: " ++ fault.message ++ "\n" }

/-- The program breaks off. -/
def brokenOff : Outcome := { status := 101, complaint := "the lifetime leaves the calendar\n" }

end Outcome

/-- The causes of an error of an authenticator. -/
def causesOf {α : Type} : Except AuthError α → Action α
  | .ok a => .ok a
  | .error e => .error [e.message]

/-! ## Tokens -/

/-- The authenticator of a shared secret. -/
def secretAuthenticator (key algorithm : String) : Action JwtAuthenticator :=
  match Token.Algorithm.ofName? algorithm with
  | none => .error ["unknown algorithm `" ++ algorithm ++ "`", Token.Fault.algorithmName.name]
  | some a => causesOf (JwtAuthenticator.ofOptions {
      algorithm := a
      resolver := some fun _ ↦ some (.ofSecret (Text.toBytes key)) })

/-- The instant some seconds from now, if it is in the calendar.  A clock is never in a leap second,
so that seconds may be counted in either direction. -/
def expiry? (now : Instant) (lifetime : Int) : Option Instant :=
  Instant.ofNanos? (now.toNanos + lifetime * Instant.perSecond)

/-- The claims of a new token that is issued now, and is valid for a lifetime if there is one; or
nothing, if the lifetime leads out of the calendar. -/
def mintClaims (now : Instant) (random : Nat) (subject : Option String) (scopes : List String)
    (lifetime : Option Int) (tokenId : Bool) : Option (Except AuthError Claims) :=
  let c := Claims.empty.withScopes scopes
  let c := match subject with
    | some s => c.withSubject s
    | none => c
  let c := if tokenId then c.withTokenId (Text.uuid random) else c
  let issued := c.attempt (Claims.setDate .issuedAt now)
  match lifetime with
  | none => some issued
  | some seconds =>
    match issued, expiry? now seconds with
    | .error e, _ => some (.error e)
    | .ok _, none => none
    | .ok c, some stop => some (c.attempt (Claims.setDate .expirationTime stop))

/-- Issues a token. -/
def mint (now : Instant) (random : Nat) (key algorithm : String) (subject : Option String)
    (scopes : List String) (lifetime : Option Int) (tokenId : Bool) : Outcome :=
  match secretAuthenticator key algorithm with
  | .error messages => .failed messages
  | .ok a =>
    match mintClaims now random subject scopes lifetime tokenId with
    | none => .brokenOff
    | some claims =>
      match claims.bind (a.createIdentity random) with
      | .ok token => .done (token ++ "\n")
      | .error e => .failed [e.message]

/-- Verifies a token and shows its claims. -/
def verify (now : Instant) (key algorithm token : String) : Action String := do
  let a ← secretAuthenticator key algorithm
  let c ← causesOf (a.authenticateToken now token)
  return (Json.ofDict c.toPayload).toIndentedText ++ "\n"

/-! ## Providers and the site -/

/-- Shows the document of a provider. -/
def discover (names : Network.Names) (pages : Network.Pages) (issuer : String) : Action String := do
  return (← causesOf (Oidc.discover names pages issuer)).toJson.toIndentedText ++ "\n"

/-- Checks an address to serve the site at: it ends with a colon and a port. -/
def checkBind (address : String) : Action Unit :=
  match Text.splitOnce? ':' address.toList.reverse with
  | none => .error ["invalid socket address"]
  | some (port, _) =>
    if (Text.natOfText? (2 ^ 16) (String.ofList port.reverse)).isSome then .ok ()
    else .error ["invalid port value"]

/-- Builds the authenticator that stands before the site. -/
def prepareSite (env : Environment) (names : Network.Names) (pages : Network.Pages) (bind : String)
    (config : Option String) : Action Authenticator := do
  let loaded := match config with
    | some path => Config.load env path
    | none => Config.loadDefault env
  let c ← loaded.mapError ConfigFault.messages
  let a ← (c.build env names pages).mapError ConfigFault.messages
  checkBind bind
  return a

/-! ## All together -/

/-- The outcome of an action that writes something. -/
def Outcome.ofAction : Action String → Outcome
  | .ok output => .done output
  | .error messages => .failed messages

/-- Carries out a command. -/
def Command.run (env : Environment) (names : Network.Names) (pages : Network.Pages) (now : Instant)
    (random : Nat) : Command → Result
  | .mint key algorithm subject scopes lifetime tokenId =>
    .ended (CommandLine.mint now random key algorithm subject scopes lifetime tokenId)
  | .verify key algorithm token => .ended (.ofAction (CommandLine.verify now key algorithm token))
  | .discover issuer _ => .ended (.ofAction (CommandLine.discover names pages issuer))
  | .serve bind config =>
    match prepareSite env names pages bind config with
    | .ok a => .serving a
    | .error messages => .ended (.failed messages)

/-- Runs the program. -/
def run (env : Environment) (names : Network.Names) (pages : Network.Pages) (now : Instant)
    (random : Nat) (arguments : List String) : Result :=
  match Request.ofArguments env.value? arguments with
  | .run c => c.run env names pages now random
  | .help => .ended (.done programHelp)
  | .helpOn gr => .ended (.done (gr.help env.value?))
  | .helpOnHelp => .ended (.done helpHelp)
  | .refuse fault => .ended (.misused fault)

end BearerAuth.CommandLine
