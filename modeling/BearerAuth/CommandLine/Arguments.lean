import BearerAuth.Text.Split

/-!
# Arguments

A command takes options, which have names, and positional arguments, which have none.  An option
that takes a value finds it behind an equals sign or in the next argument, which then must not look
like an option itself.  After two hyphens all arguments are positional.  What a command takes is
said by a value, `Grammar`, that arguments are read by and help is written from.
-/

namespace BearerAuth.CommandLine

/-- An option of a command. -/
structure Opt where
  /-- The name, without hyphens. -/
  name : String
  /-- What the value is called, if the option takes one. -/
  value : Option String := none
  /-- The option may be given several times. -/
  repeatable : Bool := false
  /-- A value must be given. -/
  required : Bool := false
  /-- The variable that the value is taken from if the option is not given. -/
  variableName : Option String := none
  /-- The value if none is given. -/
  default : Option String := none
  /-- Whether a text is a value. -/
  accepts : String → Bool := fun _ ↦ true
  /-- What the option does. -/
  about : String := ""

/-- What a command takes. -/
structure Grammar where
  /-- The name of the command. -/
  name : String
  /-- What the command does. -/
  about : String
  /-- The options. -/
  options : List Opt
  /-- What the positional arguments are called; each must be there. -/
  positionals : List String := []

/-- What is wrong with arguments. -/
inductive UsageFault where
  /-- No command is named. -/
  | noCommand
  /-- There is no such command. -/
  | unknownCommand (name : String)
  /-- The command does not take an argument. -/
  | unexpected (argument : String)
  /-- An option lacks its value. -/
  | valueMissing (option : String)
  /-- An option takes no value. -/
  | valueUnexpected (option : String)
  /-- An option does not take this value. -/
  | valueRefused (option value : String)
  /-- An option is given twice. -/
  | repeated (option : String)
  /-- Something that must be given is not. -/
  | required (name : String)
  deriving DecidableEq, Repr

/-- The message of a fault. -/
def UsageFault.message : UsageFault → String
  | noCommand => "a command is required"
  | unknownCommand name => "unrecognized command '" ++ name ++ "'"
  | unexpected argument => "unexpected argument '" ++ argument ++ "'"
  | valueMissing option => "a value is required for '--" ++ option ++ "'"
  | valueUnexpected option => "'--" ++ option ++ "' takes no value"
  | valueRefused option value => "invalid value '" ++ value ++ "' for '--" ++ option ++ "'"
  | repeated option => "'--" ++ option ++ "' cannot be given twice"
  | required name => "'" ++ name ++ "' is required"

/-- Why the arguments are not acted on. -/
inductive Stop where
  /-- Help was asked for. -/
  | help
  /-- The arguments are wrong. -/
  | usage (fault : UsageFault)
  deriving DecidableEq, Repr

/-- Arguments by what they are given to. -/
structure Given where
  /-- The values of options, in the order given; an option without a value has the empty text. -/
  options : List (String × String) := []
  /-- The positional arguments. -/
  positionals : List String := []
  deriving DecidableEq, Repr

namespace Given

/-- The values given to an option. -/
def values (g : Given) (name : String) : List String :=
  (g.options.filter (·.1 = name)).map Prod.snd

/-- Whether an option is given. -/
def has (g : Given) (name : String) : Bool := !(g.values name).isEmpty

/-- The arguments with a value for an option. -/
def giveOption (g : Given) (o : Opt) (value : String) : Except Stop Given :=
  if !o.accepts value then .error (.usage (.valueRefused o.name value))
  else if !o.repeatable && g.has o.name then .error (.usage (.repeated o.name))
  else .ok { g with options := g.options ++ [(o.name, value)] }

/-- The arguments with one more positional argument. -/
def givePositional (gr : Grammar) (g : Given) (argument : String) : Except Stop Given :=
  if g.positionals.length < gr.positionals.length then
    .ok { g with positionals := g.positionals ++ [argument] }
  else .error (.usage (.unexpected argument))

end Given

/-! ## Reading -/

/-- What an argument looks like. -/
inductive Look where
  /-- Two hyphens alone. -/
  | divider
  /-- Two hyphens, a name and perhaps a value behind an equals sign. -/
  | long (name : String) (value : Option String)
  /-- A hyphen and letters. -/
  | short (letters : List Char)
  /-- Anything else; also a hyphen alone. -/
  | plain
  deriving DecidableEq, Repr

/-- What an argument looks like. -/
def Look.of (argument : String) : Look :=
  match argument.toList with
  | ['-', '-'] => .divider
  | '-' :: '-' :: rest =>
    match Text.splitOnce? '=' rest with
    | some (name, value) => .long (String.ofList name) (some (String.ofList value))
    | none => .long (String.ofList rest) none
  | ['-'] => .plain
  | '-' :: letters => .short letters
  | _ => .plain

namespace Grammar

/-- What an option without a value, or with one behind an equals sign, does; an option that still
waits for its value is handed on. -/
def readLong (gr : Grammar) (g : Given) (name : String) (value : Option String) :
    Except Stop (Given × Option Opt) :=
  if name = "help" then
    .error (if value.isNone then .help else .usage (.valueUnexpected name))
  else
    match gr.options.find? (·.name = name), value with
    | none, _ => .error (.usage (.unexpected ("--" ++ name)))
    | some o, some value =>
      if o.value.isNone then .error (.usage (.valueUnexpected name))
      else (g.giveOption o value).map (·, none)
    | some o, none =>
      if o.value.isNone then (g.giveOption o "").map (·, none) else .ok (g, some o)

/-- Reads arguments one after the other; `waiting` is an option whose value comes next. -/
def readFrom (gr : Grammar) (waiting : Option Opt) (g : Given) : List String → Except Stop Given
  | [] =>
    match waiting with
    | some o => .error (.usage (.valueMissing o.name))
    | none => .ok g
  | argument :: rest =>
    match waiting, Look.of argument with
    | some o, .plain => do gr.readFrom none (← g.giveOption o argument) rest
    | some o, _ => .error (.usage (.valueMissing o.name))
    | none, .plain => do gr.readFrom none (← g.givePositional gr argument) rest
    | none, .divider => rest.foldlM (Given.givePositional gr) g
    | none, .short ('h' :: _) => .error .help
    | none, .short _ => .error (.usage (.unexpected argument))
    | none, .long name value => do
      let (g, waiting) ← gr.readLong g name value
      gr.readFrom waiting g rest

/-- The arguments with the values that are taken from variables, and then from defaults, for options
that are not given. -/
def complete (gr : Grammar) (lookup : String → Option String) (g : Given) : Except Stop Given :=
  gr.options.foldlM (fun g o ↦
    if g.has o.name then .ok g else
      match o.variableName.bind lookup, o.default with
      | some value, _ | none, some value => g.giveOption o value
      | none, none => .ok g) g

/-- The first of what must be given but is not. -/
def missing? (gr : Grammar) (g : Given) : Option String :=
  match gr.options.find? fun o ↦ o.required && !g.has o.name with
  | some o => some ("--" ++ o.name)
  | none => gr.positionals[g.positionals.length]?

/-- The arguments of a command. -/
def read (gr : Grammar) (lookup : String → Option String) (arguments : List String) :
    Except Stop Given := do
  let g ← gr.complete lookup (← gr.readFrom none {} arguments)
  match gr.missing? g with
  | some name => .error (.usage (.required name))
  | none => return g

end Grammar

end BearerAuth.CommandLine
