import LintRoster.Machine.Mode
import LintRoster.Shell.Builtin
import LintRoster.Shell.Glob

/-!
# Commands on the surroundings of a shell

The commands on the current directory, on the permissions of new files, and on what a process may use
up. The path of the current directory is kept as it was reached: links stay in it, and two dots take
the step before them away.
-/

namespace LintRoster.Shell.Builtin

open Machine (Work)

/-! ## The current directory -/

/-- A path without dots, read from a directory. -/
def tidyPath (directory path : String) : String :=
  let steps (s : String) : List String := s.splitOn "/"
  let add (before : List String) (step : String) : List String :=
    if step == "" || step == "." then before
    else if step == ".." then before.drop 1
    else step :: before
  let start := if path.toList.head? == some '/' then [] else (steps directory).foldl add []
  "/" ++ String.intercalate "/" ((steps path).foldl add start).reverse

/-- The path of the current directory without links. -/
def physicalDirectory : Sh String :=
  Sh.look fun fs => Bytes.ofText (FileSystem.absolute fs.cwd).text

/-- Makes another directory the current one, by a path without dots unless `physical` is set. Tells
whether that was possible. -/
def enter (physical : Bool) (path : String) : Sh Bool := do
  let old := (← get).directory
  let path := if physical then path else tidyPath old path
  match ← Sh.work (Work.change fun fs => fs.changeDir (Glob.pathOf path)) with
  | .error _ => return false
  | .ok () =>
    let directory ← if physical then physicalDirectory else pure path
    modify fun s => { s with directory }
    Sh.assign "OLDPWD" old
    Sh.exportName "OLDPWD"
    Sh.assign "PWD" directory
    Sh.exportName "PWD"
    return true

/-- Whether a path is searched in other directories than the current one. -/
def isSearched (path : String) : Bool :=
  match (path.splitOn "/").head? with
  | some "" | some "." | some ".." => false
  | _ => true

/-- The first directory among those of a search path that holds a path, and whether it is worth
telling. -/
def searched (entries : List String) (path : String) : Sh (Option (String × Bool)) := do
  let candidate (entry : String) : String := if entry == "" then path else entry ++ "/" ++ path
  let found ← Sh.look fun fs => entries.find? fun e => fs.isDir (Glob.pathOf (candidate e))
  return found.map fun e => (candidate e, e != "")

/-- Goes to another directory. -/
def cd : Builtin := fun args => do
  let (options, args) ← options "LP" args
  let physical := (options.getLast?.map Prod.fst) == some 'P'
  let s ← get
  let target :=
    match args.head? with
    | none => (s.value? "HOME").getD ""
    | some "-" => (s.value? "OLDPWD").getD ""
    | some path => path
  let path := if target == "" then "." else target
  let found ←
    match s.value? "CDPATH" with
    | some entries => if isSearched path then searched (entries.splitOn ":") path else pure none
    | none => pure none
  let (path, tells) := found.getD (path, false)
  if !(← enter physical path) then Sh.fault ("can't cd to " ++ if target == "" then "." else target)
  if tells || args.head? == some "-" then Sh.say ((← get).directory ++ "\n")
  return 0

/-- Writes the path of the current directory. -/
def pwd : Builtin := fun args => do
  let (options, _) ← options "LP" args
  let path ←
    if (options.getLast?.map Prod.fst) == some 'P' then physicalDirectory
    else pure (← get).directory
  Sh.say (path ++ "\n")
  return 0

/-! ## Permissions and limits -/

/-- Shows or sets the permissions that new files do not get. -/
def umask : Builtin := fun args => do
  let (options, args) ← options "S" args
  let mask ← Sh.ask (.mask none)
  match args with
  | [] =>
    let text := if options.isEmpty then Machine.Mode.octal 4 mask
      else Machine.Mode.clausesText (Machine.Mode.without 0o777 mask)
    Sh.say (text ++ "\n")
  | arg :: _ =>
    if arg.toList.head?.any Char.isDigit then
      match Text.natural? 8 arg.toList with
      | some n => discard (Sh.ask (.mask (some (n % 512))))
      | none => Sh.badNumber arg
    else
      match Machine.Mode.parse? true 0o777 (Machine.Mode.without 0o777 mask) arg with
      | some mode => discard (Sh.ask (.mask (some (Machine.Mode.without 0o777 mode))))
      | none => Sh.fault ("Illegal mode: " ++ arg)
  return 0

/-- Shows limits. There are none. -/
def ulimit : Builtin := fun args => do
  let (_, args) ← options "HSatfdscmlpnvwr" args
  if args.isEmpty then Sh.say "unlimited\n"
  return 0

/-- Shows the time that was used up, which is not measured. -/
def times : Builtin := fun _ => do
  Sh.say "0m0.000000s 0m0.000000s\n0m0.000000s 0m0.000000s\n"
  return 0

end LintRoster.Shell.Builtin
