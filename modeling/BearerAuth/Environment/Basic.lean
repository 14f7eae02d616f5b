import BearerAuth.Text.Utf8

/-!
# What surrounds a program

A program finds variables and files around it.  An `Environment` is what it would find, as a value:
the text of each variable that is set, and for each path either the bytes of the file there or why
there are none.
-/

namespace BearerAuth

/-- Why a file cannot be read. -/
inductive FileFault where
  /-- There is nothing at the path. -/
  | notFound
  /-- There is a directory at the path. -/
  | isDirectory
  /-- The path leads through something that is no directory. -/
  | notDirectory
  /-- The path or a part of it is too long. -/
  | tooLong
  /-- The path has a character that no path has. -/
  | malformedPath
  /-- The file is not text. -/
  | notText
  /-- Something else. -/
  | other (detail : String)
  deriving DecidableEq, Repr

/-- The message of a fault, with its number if the system gives it one. -/
def FileFault.message : FileFault → String
  | notFound => "No such file or directory (os error 2)"
  | isDirectory => "Is a directory (os error 21)"
  | notDirectory => "Not a directory (os error 20)"
  | tooLong => "File name too long (os error 36)"
  | malformedPath => "file name contained an unexpected NUL byte"
  | notText => "stream did not contain valid UTF-8"
  | other detail => detail

/-- What surrounds a program. -/
structure Environment where
  /-- The text of a variable. -/
  value? : String → Option String
  /-- The bytes of a file. -/
  read : String → Except FileFault (List UInt8)

namespace Environment

/-- Whether there is a file or a directory at a path. -/
def contains (e : Environment) (path : String) : Bool :=
  match e.read path with
  | .ok _ | .error .isDirectory => true
  | .error _ => false

/-- The text of a file. -/
def readText (e : Environment) (path : String) : Except FileFault String := do
  match Text.ofBytes? (← e.read path) with
  | some text => return text
  | none => .error .notText

/-- The variables of a list; no variable has a name with an equals sign or a null character. -/
def variablesOf (settings : List (String × String)) (name : String) : Option String :=
  if name.toList.any fun c ↦ c = '=' || c = '\x00' then none else settings.lookup name

end Environment

/-- The path of an entry of a directory. -/
def joinPath (directory entry : String) : String :=
  if directory = "" ∨ directory.toList.getLast? = some '/' then directory ++ entry
  else directory ++ "/" ++ entry

end BearerAuth
