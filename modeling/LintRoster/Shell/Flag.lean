import LintRoster.Shell.State

/-!
# Flags of a shell

A flag is an option of the shell itself. It has a letter and a name, or only a name. Those that are
on are kept by their letters.
-/

namespace LintRoster.Shell.Flag

/-- The options by letter and name. Upper case letters that no command accepts stand for options that
have only names. -/
def table : List (Char × String) :=
  [('e', "errexit"), ('f', "noglob"), ('I', "ignoreeof"), ('i', "interactive"), ('m', "monitor"),
    ('n', "noexec"), ('s', "stdin"), ('x', "xtrace"), ('v', "verbose"), ('V', "vi"), ('E', "emacs"),
    ('C', "noclobber"), ('a', "allexport"), ('b', "notify"), ('u', "nounset"), ('p', "privileged"),
    ('L', "nolog"), ('D', "debug")]

/-- The letters of options that have only names. -/
def nameless : List Char :=
  ['L', 'D']

/-- The letters that commands accept. -/
def letters : List Char :=
  (table.map Prod.fst).filter fun c => !nameless.contains c

/-- The option with a name. -/
def ofName? (name : String) : Option Char :=
  (table.find? fun entry => entry.2 == name).map Prod.fst

/-- The options that are on, with one of them switched. -/
def switched (c : Char) (value : Bool) (on : List Char) : List Char :=
  let others := on.filter (· != c)
  if value then c :: others else others

/-- Switches an option by its letter. -/
def switch (c : Char) (value : Bool) : Sh Unit := do
  if !letters.contains c then
    Sh.fault ("Illegal option " ++ (if value then "-" else "+") ++ String.singleton c)
  if c == 'm' && value then
    Sh.report "can't access tty; job control turned off\n"
  else modify fun s => { s with options := switched c value s.options }

/-- Switches an option by its name. -/
def switchNamed (name : String) (value : Bool) : Sh Unit := do
  match ofName? name with
  | none => Sh.fault ("Illegal option -o " ++ name)
  | some c => modify fun s => { s with options := switched c value s.options }

/-- A table of all options. -/
def listing (on : List Char) : String :=
  let line (entry : Char × String) : String :=
    let padding := String.ofList (List.replicate (16 - entry.2.length) ' ')
    entry.2 ++ padding ++ (if on.contains entry.1 then "on" else "off") ++ "\n"
  "Current option settings\n" ++ String.join (table.map line)

/-- Commands that switch all options as they are. -/
def commands (on : List Char) : String :=
  String.join (table.map fun (c, name) =>
    "set " ++ (if on.contains c then "-" else "+") ++ "o " ++ name ++ "\n")

/-- Switches the options in front of arguments, and gives the arguments that are left. There are none
if no arguments follow the options. -/
def takeFrom : Nat → List String → Sh (Option (List String))
  | 0, _ => return none
  | _, [] => return none
  | fuel + 1, arg :: args => do
    match arg.toList with
    | ['-', '-'] => return some args
    | ['-'] =>
      modify fun s => { s with options := s.options.filter fun c => c != 'x' && c != 'v' }
      return if args.isEmpty then none else some args
    | '-' :: cs => lettersFrom fuel true cs args
    | '+' :: cs => lettersFrom fuel false cs args
    | _ => return some (arg :: args)
where
  /-- Switches the options of one argument, and those after it. -/
  lettersFrom (fuel : Nat) (value : Bool) : List Char → List String → Sh (Option (List String))
    | [], args => takeFrom fuel args
    | 'o' :: cs, args => do
      match args with
      | [] =>
        let on := (← get).options
        Sh.say (if value then listing on else commands on)
        lettersFrom fuel value cs []
      | name :: args =>
        switchNamed name value
        lettersFrom fuel value cs args
    | c :: cs, args => do
      switch c value
      lettersFrom fuel value cs args

/-- Switches the options in front of arguments, and gives the arguments that are left, if any were
given. -/
def take (args : List String) : Sh (Option (List String)) :=
  takeFrom (args.length + 1) args

end LintRoster.Shell.Flag
