import LintRoster.Machine.Exec
import LintRoster.Shell.Builtin
import LintRoster.Shell.Glob

/-!
# What a name stands for as a command

A name with a slash is a path. Any other name may be a function, a command of the shell itself, or a
file in one of the directories of the search path. Names whose files were found are remembered.
-/

namespace LintRoster.Shell

/-- What a name stands for as a command. -/
inductive Meaning where
  | function (f : Function)
  | builtin
  /-- A file, by the paths that are tried in order. -/
  | file (paths : List String)
  /-- Nothing, for the reason given. -/
  | missing (fault : FileFault)

namespace Meaning

/-- What is said about a command that cannot be started. -/
def missingMessage (name : String) (fault : FileFault) : String :=
  let reason := if fault == .notFound || fault == .notDirectory then "not found" else fault.summary
  name ++ ": " ++ reason

/-- Drops the paths in front of the first one that leads to a regular file. What stands in the way is
remembered as the fault in the end. -/
def skipMissing (fs : FileSystem) (fault : FileFault) : List String → Except FileFault (List String)
  | [] => .error fault
  | path :: paths =>
    match fs.stat (Glob.pathOf path) with
    | .ok (_, .file _ _) => .ok (path :: paths)
    | .ok _ => skipMissing fs .permissionDenied paths
    | .error .notFound | .error .notDirectory => skipMissing fs fault paths
    | .error fault => skipMissing fs fault paths

/-- The file that a name stands for. -/
def ofFile (fs : FileSystem) (searchPath name : String) : Meaning :=
  match skipMissing fs .notFound (Machine.Exec.paths searchPath name) with
  | .ok paths => file paths
  | .error fault => missing fault

end Meaning

namespace Sh

/-- The search path of a shell. -/
def searchPath : Sh String := do
  return ((← get).value? "PATH").getD ""

/-- Remembers that the file of a command was found. -/
def remember (name : String) : Sh Unit :=
  modify fun s => if s.found.contains name then s else { s with found := s.found ++ [name] }

/-- What a name stands for as a command, found along a search path. Functions do not count unless
`functions` is set. -/
def meaningAlong (searchPath : String) (functions : Bool) (name : String) : Sh Meaning := do
  if Machine.isPathName name then return .file [name]
  if Builtin.special.contains name then return .builtin
  let f? := ((← get).functions.find? fun f => f.1 == name).map Prod.snd
  match if functions then f? else none with
  | some f => return .function f
  | none =>
    if Builtin.isName name then return .builtin
    else look fun fs => Meaning.ofFile fs searchPath name

/-- What a name stands for as a command. -/
def meaning (functions : Bool) (name : String) : Sh Meaning := do
  let found ← meaningAlong (← searchPath) functions name
  match found with
  | .file _ => if !Machine.isPathName name then remember name
  | _ => pure ()
  return found

end Sh

end LintRoster.Shell
