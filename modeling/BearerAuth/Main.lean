import BearerAuth.CommandLine.Needs
import BearerAuth.Service.Wire
import Std.Time.DateTime.Timestamp

/-!
# The program

All that the program does of itself is to gather what surrounds it: variables, the files that it may
need, the time and random bytes.  What comes of them is decided elsewhere.  It has no network of its
own, so no provider can be reached, and the site answers one request, which comes on the standard
input, as for a program that is started for each connection.
-/

open BearerAuth

/-- What is read at a path. -/
def readPath (path : String) : IO (Except FileFault (List UInt8)) := do
  try
    return .ok (← IO.FS.readBinFile path).toList
  catch
    | .noFileOrDirectory .. => return .error .notFound
    | .inappropriateType _ number _ =>
      return .error (if number = 20 then .notDirectory else .isDirectory)
    | e => return .error (.other (toString e))

/-- Gathers what a run needs, as often as new needs may show themselves. -/
def surroundings (arguments : List String) : IO Environment := do
  let mut env : Environment := ⟨fun _ ↦ none, fun _ ↦ .error .notFound⟩
  for _ in List.range CommandLine.rounds do
    let needs := CommandLine.needs env arguments
    let settings ← needs.settings.filterMapM fun name ↦ do
      return (← IO.getEnv name).map (name, ·)
    let files ← needs.files.mapM fun path ↦ do return (path, ← readPath path)
    env := ⟨Environment.variablesOf settings, fun path ↦
      (files.lookup path).getD (.error .notFound)⟩
  return env

/-- The time. -/
def currentInstant : IO Instant := do
  let now ← Std.Time.Timestamp.now
  return (Instant.ofNanos? now.toNanosecondsSinceUnixEpoch.val).getD .epoch

/-- The bytes up to the end of a line. -/
partial def readLine (input : IO.FS.Stream) : IO (List UInt8) := do
  match (← input.read 1).toList with
  | [] => return []
  | b :: _ => if b = 10 then return [] else return b :: (← readLine input)

/-- The lines up to an empty one. -/
partial def readHead (input : IO.FS.Stream) : IO (List (List UInt8)) := do
  let line := (← readLine input).filter (· ≠ 13)
  if line = [] then return [] else return line :: (← readHead input)

/-- Answers one request. -/
def serveOnce (a : Authenticator) (now : Instant) : IO Unit := do
  let head ← readHead (← IO.getStdin)
  let reply := match Service.Request.ofLines? head with
    | some r => Service.site a now r
    | none => Service.malformed
  IO.print reply.toText

/-- Runs the program. -/
def main (arguments : List String) : IO UInt32 := do
  let env ← surroundings arguments
  let now ← currentInstant
  let random := Sha2.natOfBytes (← IO.getRandomBytes 64).toList
  match CommandLine.run env Network.Host.plainNames Network.unreachable now random arguments with
  | .ended outcome =>
    IO.print outcome.output
    IO.eprint outcome.complaint
    return outcome.status.toUInt32
  | .serving a =>
    serveOnce a now
    return 0
