import LintRoster.Shell.Builtin.Directory
import LintRoster.Shell.Builtin.Jobs
import LintRoster.Shell.Builtin.Naming
import LintRoster.Shell.Builtin.Texts
import LintRoster.Shell.Builtin.Variables

/-!
# The table of commands

The commands of the shell by their names, but for those that carry out other commands. Commands that
leave a loop, a function or the shell are among them.
-/

namespace LintRoster.Shell.Builtin

/-- How many loops a command is about: at least one, and no more than there are. -/
def levels (args : List String) : Sh Nat := do
  let n ←
    match args with
    | [] => pure 1
    | arg :: _ =>
      let n ← Sh.numberOf arg
      if n == 0 then Sh.badNumber arg
      pure n
  return min n (← get).loops

/-- Leaves loops. -/
def «break» : Builtin := fun args => do
  let n ← levels args
  if n > 0 then
    Sh.setStatus 0
    throw (.loop n)
  return 0

/-- Goes on with the next round of a loop. -/
def «continue» : Builtin := fun args => do
  let n ← levels args
  if n > 0 then
    Sh.setStatus 0
    throw (.round n)
  return 0

/-- Leaves a function or a sourced script. -/
def «return» : Builtin := fun args => do
  match args with
  | [] => throw (.function false)
  | arg :: _ =>
    Sh.setStatus (← Sh.numberOf arg)
    throw (.function true)

/-- Leaves the shell. -/
def exit : Builtin := fun args => do
  match args with
  | [] => pure ()
  | arg :: _ =>
    let status ← Sh.numberOf arg
    modify fun s => { s with finalStatus := some status }
  throw .shell

/-- The commands by their names. -/
def table : List (String × Builtin) := [
  (":", succeed), ("[", test), ("alias", aliasNames), ("bg", moveJob), ("break", «break»), ("cd", cd),
  ("continue", «continue»), ("echo", echo), ("exit", exit), ("export", exportNames), ("false", fail),
  ("fg", moveJob), ("getopts", getopts), ("hash", hash), ("jobs", jobs), ("kill", kill),
  ("local", localNames), ("printf", printf), ("pwd", pwd), ("read", read), ("readonly", fixNames),
  ("return", «return»), ("set", setFlags), ("shift", shift), ("test", test), ("times", times),
  ("trap", trap), ("true", succeed), ("type", type), ("ulimit", ulimit), ("umask", umask),
  ("unalias", unalias), ("unset", unsetNames), ("wait", wait)]

/-- The command with a name. -/
def find? (name : String) : Option Builtin :=
  (table.find? fun entry => entry.1 == name).map Prod.snd

end LintRoster.Shell.Builtin
