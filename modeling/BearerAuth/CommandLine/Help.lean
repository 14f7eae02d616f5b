import BearerAuth.CommandLine.Commands

/-!
# Help

Help on the program lists its commands, and help on a command what the command takes.  In a table
the second column starts behind the longest entry of the first.
-/

namespace BearerAuth.CommandLine

/-- Lines of text. -/
def lines (l : List String) : String := String.join (l.map (· ++ "\n"))

/-- The rows of a table with two columns. -/
def table (rows : List (String × String)) : List String :=
  let width := (rows.map fun r ↦ r.1.length).foldl max 0
  rows.map fun (left, right) ↦
    "  " ++ left ++ String.ofList (List.replicate (width - left.length + 2) ' ') ++ right

/-- A section with a heading. -/
def titled (heading : String) (rows : List (String × String)) : List String :=
  if rows = [] then [] else "" :: (heading ++ ":") :: table rows

/-- An option as help shows it. -/
def Opt.shown (o : Opt) : String :=
  "--" ++ o.name ++ match o.value with
    | some value => " <" ++ value ++ ">"
    | none => ""

/-- What help says about an option: what it does, the variable that it is taken from with the
variable's value, and its default. -/
def Opt.explained (o : Opt) (lookup : String → Option String) : String :=
  let source := o.variableName.map fun name ↦
    "[env: " ++ name ++ "=" ++ (lookup name).getD "" ++ "]"
  let default := o.default.map fun value ↦ "[default: " ++ value ++ "]"
  " ".intercalate ((if o.about = "" then [] else [o.about]) ++ source.toList ++ default.toList)

/-- The row of the option that asks for help. -/
def helpRow : String × String := ("-h, --help", "Print help")

/-- What help says about help. -/
def helpAbout : String := "Print this message or the help of the given subcommand(s)"

/-- Help on the program. -/
def programHelp : String :=
  lines ([programAbout, "", "Usage: " ++ programName ++ " <COMMAND>"] ++
    titled "Commands" ((grammars.map fun gr ↦ (gr.name, gr.about)) ++ [("help", helpAbout)]) ++
    titled "Options" [helpRow])

/-- Help on a command. -/
def Grammar.help (gr : Grammar) (lookup : String → Option String) : String :=
  let words := [programName, gr.name, "[OPTIONS]"] ++
    (gr.options.filter (·.required)).map Opt.shown ++ gr.positionals
  lines ([gr.about, "", "Usage: " ++ " ".intercalate words] ++
    titled "Arguments" (gr.positionals.map (·, "")) ++
    titled "Options"
      (gr.options.map (fun o ↦ ("    " ++ o.shown, o.explained lookup)) ++ [helpRow]))

/-- Help on help. -/
def helpHelp : String :=
  lines ([helpAbout, "", "Usage: " ++ programName ++ " help [COMMAND]..."] ++
    titled "Arguments" [("[COMMAND]...", "Print help for the subcommand(s)")])

end BearerAuth.CommandLine
