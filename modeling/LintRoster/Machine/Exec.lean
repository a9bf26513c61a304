import LintRoster.Machine.Image
import LintRoster.Machine.Task

/-!
# Programs and what they are started with

A program gets its arguments, of which the first is the name that it was called by, and the variables
that its starter wanted it to see. A program that starts others does so by an `Exec`, which comes back
only if the program cannot be started.
-/

namespace LintRoster.Machine

/-- Variables with their values, in the order in which they are listed. -/
abbrev Environment :=
  List (String × String)

namespace Environment

/-- The value of a variable. -/
def get? (name : String) (e : Environment) : Option String :=
  e.lookup name

/-- The variables without one. -/
def without (name : String) (e : Environment) : Environment :=
  e.filter fun v => v.1 != name

/-- The variables with a value for one. -/
def insert (name value : String) (e : Environment) : Environment :=
  if e.any fun v => v.1 == name then
    e.map fun v => if v.1 == name then (name, value) else v
  else e ++ [(name, value)]

end Environment

/-- What a program is started with. Arguments and variables are byte texts. -/
structure Call where
  name : String
  arguments : List String
  environment : Environment

/-- Goes on as the program at a path, with arguments of which the first is its name. The answer is why
that is not possible. -/
abbrev Exec :=
  String → List String → Environment → Work FileFault

namespace Exec

/-- The path of the shell, which runs files that name no interpreter. -/
def shellPath : String :=
  "/bin/sh"

/-- Goes on as a program among the directories of a search path. The answer is why none can be
started: a fault other than that nothing was found counts more. -/
def searchFrom (exec : Exec) (arguments : List String) (environment : Environment)
    (fault : FileFault) : List String → Work FileFault
  | [] => pure fault
  | path :: paths => do
    match ← exec path arguments environment with
    | .notFound | .notDirectory => searchFrom exec arguments environment fault paths
    | .notRunnable => exec shellPath (shellPath :: path :: arguments.drop 1) environment
    | fault => searchFrom exec arguments environment fault paths

/-- The paths that a name may mean. -/
def paths (searchPath name : String) : List String :=
  if isPathName name then [name]
  else (searchPath.splitOn ":").map fun dir => if dir == "" then name else dir ++ "/" ++ name

/-- Goes on as a program that is named by its path, or searched by its name. -/
def search (exec : Exec) (searchPath : String) (arguments : List String)
    (environment : Environment) : Work FileFault :=
  match arguments with
  | [] => pure .notFound
  | name :: _ =>
    if name == "" then pure .notFound
    else searchFrom exec arguments environment .notFound (paths searchPath name)

end Exec

end LintRoster.Machine
