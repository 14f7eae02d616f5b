import BearerAuth.Environment.Basic
import BearerAuth.Text.Split

/-!
# Files in memory

A working directory whose files are held in memory.  A path is followed part by part: each part but
the last has to lead to a directory, a full stop stays where it is, and two lead back.
-/

namespace BearerAuth

/-- Files and directories by the parts of their paths; a path that something lies under is a
directory. -/
structure FileTree where
  /-- The files and their bytes. -/
  files : List (List String × List UInt8)
  /-- The directories that are there even if nothing lies under them. -/
  directories : List (List String)
  deriving Repr

namespace FileTree

/-- The parts of a path. -/
def parts (path : String) : List String := (Text.split '/' path.toList).map String.ofList

/-- The tree of some entries: files with their texts, and directories, whose paths end in a
slash. -/
def ofList (entries : List (String × String)) : FileTree :=
  let (directories, files) := entries.partition fun (path, _) ↦ path.toList.getLast? = some '/'
  { files := files.map fun (path, text) ↦ (parts path, Text.toBytes text)
    directories := directories.map fun (path, _) ↦ (parts path).filter (· ≠ "") }

/-- Whether there is a directory at some parts. -/
def isDirectory (t : FileTree) (place : List String) : Bool :=
  place = [] || (t.files.map Prod.fst).any (fun p ↦ place.isPrefixOf p && p ≠ place) ||
    t.directories.any (place.isPrefixOf ·)

/-- The longest part of a path, in bytes. -/
def maxPart : Nat := 255

/-- The longest path, in bytes. -/
def maxPath : Nat := 4095

/-- Follows some parts from a place in the tree. -/
def follow (t : FileTree) (place : List String) : List String → Except FileFault (List UInt8)
  | [] =>
    match t.files.lookup place with
    | some bytes => .ok bytes
    | none => if t.isDirectory place then .error .isDirectory else .error .notFound
  | part :: rest =>
    if !t.isDirectory place then
      .error (if (t.files.lookup place).isSome then .notDirectory else .notFound)
    else if part = "" ∨ part = "." then t.follow place rest
    else if part = ".." then if place = [] then .error .notFound else t.follow place.dropLast rest
    else if maxPart < (Text.toBytes part).length then .error .tooLong
    else t.follow (place ++ [part]) rest

/-- What is read at a path; nothing is known of paths that start at the root. -/
def read (t : FileTree) (path : String) : Except FileFault (List UInt8) :=
  if path.toList.any (· = '\x00') then .error .malformedPath
  else if path = "" ∨ path.toList.head? = some '/' then .error .notFound
  else if maxPath < (Text.toBytes path).length then .error .tooLong
  else t.follow [] (parts path)

end FileTree

end BearerAuth
