import LintRoster.Shell.Job

/-!
# Commands of the shell itself

Such a command is carried out by the shell in its own process. It gets its arguments and gives a
status. This module holds what such commands have in common: their names, how options are read, and
how texts are written so that a shell reads them back.
-/

namespace LintRoster.Shell

/-- What a command of the shell does with its arguments. -/
abbrev Builtin :=
  List String → Sh Nat

namespace Builtin

/-- The commands whose faults end a script, and whose assignments stay. -/
def special : List String :=
  [".", ":", "break", "continue", "eval", "exec", "exit", "export", "local", "readonly", "return",
    "set", "shift", "times", "trap", "unset"]

/-- The commands that are found even before functions and files with their names. -/
def regular : List String :=
  ["alias", "bg", "cd", "command", "false", "fg", "getopts", "hash", "jobs", "kill", "pwd",
    "read", "true", "type", "ulimit", "umask", "unalias", "wait"]

/-- The commands that exist as files too. -/
def plain : List String :=
  ["[", "echo", "printf", "test"]

/-- The commands whose arguments may be assignments. -/
def assigning : List String :=
  ["alias", "export", "local", "readonly"]

/-- Whether a name is one of a command of the shell. -/
def isName (name : String) : Bool :=
  special.contains name || regular.contains name || plain.contains name

/-! ## Options -/

/-- Whether a letter stands for an option, and whether that takes a value. The letters are written
one after the other, with a colon behind those that do. -/
def takesValue? (letters : List Char) (c : Char) : Option Bool :=
  match letters with
  | [] => none
  | d :: rest =>
    if d == c && d != ':' then some (rest.head? == some ':') else takesValue? rest c

/-- The options of one argument, and the arguments that are left. -/
def optionsIn (letters : List Char) :
    List Char → List String → Sh (List (Char × String) × List String)
  | [], args => return ([], args)
  | c :: cs, args => do
    match takesValue? letters c with
    | none => Sh.fault ("Illegal option -" ++ String.singleton c)
    | some false =>
      let (more, args) ← optionsIn letters cs args
      return ((c, "") :: more, args)
    | some true =>
      match cs, args with
      | [], [] => Sh.fault ("No arg for -" ++ String.singleton c ++ " option")
      | [], value :: args => return ([(c, value)], args)
      | cs, args => return ([(c, String.ofList cs)], args)

/-- The options in front of arguments, and the arguments that are left. -/
def optionsFrom (letters : List Char) : Nat → List String → Sh (List (Char × String) × List String)
  | 0, args => return ([], args)
  | _, [] => return ([], [])
  | fuel + 1, arg :: args => do
    match arg.toList with
    | ['-', '-'] => return ([], args)
    | '-' :: c :: cs =>
      let (options, args) ← optionsIn letters (c :: cs) args
      let (more, args) ← optionsFrom letters fuel args
      return (options ++ more, args)
    | _ => return ([], arg :: args)

/-- The options in front of arguments, and the arguments that are left. -/
def options (letters : String) (args : List String) :
    Sh (List (Char × String) × List String) :=
  optionsFrom letters.toList (args.length + 1) args

/-- The arguments of a command without options. -/
def operands (args : List String) : Sh (List String) := do
  return (← options "" args).2

/-! ## Texts that a shell reads back -/

/-- The pieces of a text: runs of single quotes, and what is between them. -/
def quoteRuns : List Char → List (Bool × List Char)
  | [] => []
  | c :: cs =>
    let isQuote := c == '\''
    match quoteRuns cs with
    | (q, run) :: runs =>
      if q == isQuote then (q, c :: run) :: runs else (isQuote, [c]) :: (q, run) :: runs
    | [] => [(isQuote, [c])]

/-- A text in quotes. Single quotes in it stand in double quotes. -/
def quoted (s : String) : String :=
  let inSingle (cs : List Char) : String := "'" ++ String.ofList cs ++ "'"
  let piece (run : Bool × List Char) : String :=
    if run.1 then "\"" ++ String.ofList run.2 ++ "\"" else inSingle run.2
  match quoteRuns s.toList with
  | [] => "''"
  | (true, run) :: runs => "''" ++ String.join (((true, run) :: runs).map piece)
  | runs => String.join (runs.map piece)

/-- A name and its value, as an assignment. -/
def assignmentText (name value : String) : String :=
  name ++ "=" ++ quoted value

end Builtin

end LintRoster.Shell
