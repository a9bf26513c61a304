import LintRoster.Path

/-!
# The command line

A command line names one of four actions. The options for the workspace and the settings file may
stand before or after the name of the action, other options after it only. `CommandLine.read` turns
arguments into an errand, or tells that the usage, the help or the version is wanted instead.
-/

namespace LintRoster

/-- The names of the actions. -/
inductive Verb where
  | list
  | contract
  | smoke
  | check
deriving DecidableEq, Repr

/-- What the program is asked to do. -/
inductive Action where
  /-- Print the declared names. -/
  | list
  /-- Check the contract of the roster. -/
  | contract
  /-- Run the smoke check. -/
  | smoke (opportunistic : Bool) (artifactRoot : Option Path)
  /-- Check the contract, then run the smoke check. -/
  | check (opportunistic : Bool)
deriving DecidableEq, Repr

/-- An action with the workspace and the settings file that were named for it. -/
structure Errand where
  workspace : Option Path
  settingsFile : Option Path
  action : Action
deriving DecidableEq, Repr

/-- What arguments ask for instead of an action. -/
inductive Notice where
  | usage
  | help
  | version
deriving DecidableEq, Repr

namespace CommandLine

/-- The options that were read so far. -/
structure Options where
  workspace : Option String := none
  settingsFile : Option String := none
  artifactRoot : Option String := none
  opportunistic : Bool := false
deriving DecidableEq, Repr

/-- The options that take a value. -/
inductive ValueOption where
  | workspace
  | settingsFile
  | artifactRoot
deriving DecidableEq, Repr

/-- The action that a word names. -/
def verb? (word : String) : Option Verb :=
  if word == "list" then some .list
  else if word == "contract" then some .contract
  else if word == "smoke" then some .smoke
  else if word == "check" then some .check
  else none

/-- The option with a value that a name stands for. There is one more of them after the name of the
smoke action. -/
def valueOption? (verb : Option Verb) (name : String) : Option ValueOption :=
  if name == "workspace" then some .workspace
  else if name == "config" then some .settingsFile
  else if name == "artifact-dir" && verb == some .smoke then some .artifactRoot
  else none

/-- Whether a name stands for the option to run opportunistically. -/
def isOpportunistic (verb : Option Verb) (name : String) : Bool :=
  name == "opportunistic" && (verb == some .smoke || verb == some .check)

/-- The value of an option. -/
def Options.get (o : Options) : ValueOption → Option String
  | .workspace => o.workspace
  | .settingsFile => o.settingsFile
  | .artifactRoot => o.artifactRoot

/-- Sets the value of an option. No value may be empty, and no option may be given twice. -/
def Options.set (o : Options) (option : ValueOption) (value : String) : Except Notice Options :=
  if value == "" || (o.get option).isSome then .error .usage
  else
    match option with
    | .workspace => .ok { o with workspace := some value }
    | .settingsFile => .ok { o with settingsFile := some value }
    | .artifactRoot => .ok { o with artifactRoot := some value }

/-- The forms of an argument. -/
inductive Form where
  /-- The mark after which no options follow. -/
  | endOfOptions
  /-- An option by its name, with the value that may be attached to it. -/
  | long (name : String) (value : Option String)
  /-- Options by single letters. -/
  | short (letters : List Char)
  /-- Anything else. -/
  | word (text : String)
deriving DecidableEq, Repr

/-- Cuts the name of an option from the value that is attached to it. -/
def long (cs : List Char) : Form :=
  let name := cs.takeWhile (· != '=')
  match cs.dropWhile (· != '=') with
  | _ :: value => .long (String.ofList name) (some (String.ofList value))
  | [] => .long (String.ofList name) none

/-- The form of an argument. -/
def form (arg : String) : Form :=
  match arg.toList with
  | ['-', '-'] => .endOfOptions
  | '-' :: '-' :: cs => long cs
  | '-' :: c :: cs => .short (c :: cs)
  | _ => .word arg

/-- Whether an argument can be the value of the option before it. -/
def isValue (arg : String) : Bool :=
  match form arg with
  | .word _ => true
  | _ => false

/-- What letters ask for. -/
def notice (verb : Option Verb) : List Char → Notice
  | 'h' :: _ => .help
  | 'V' :: _ => if verb.isNone then .version else .usage
  | _ => .usage

/-- What an option asks for that is neither an option with a value nor the opportunistic one. -/
def longNotice (verb : Option Verb) (name : String) (value : Option String) : Notice :=
  if value.isSome then .usage
  else if name == "help" then .help
  else if name == "version" && verb.isNone then .version
  else .usage

/-- What the word `help` asks for, by the words after it. It may be about one action, or about
itself. -/
def helpNotice : List String → Notice
  | [] => .help
  | [topic] => if topic == "help" || (verb? topic).isSome then .help else .usage
  | _ => .usage

/-- The options in front of, or after, the name of an action, and that name with the arguments after
it. After the name of an action no other words are allowed. -/
def options (verb : Option Verb) :
    Options → List String → Except Notice (Options × Option (Verb × List String))
  | o, [] => .ok (o, none)
  | o, arg :: rest =>
    match form arg with
    | .endOfOptions => if rest.isEmpty then .ok (o, none) else .error .usage
    | .short letters => .error (notice verb letters)
    | .word text =>
      match verb, verb? text with
      | none, some v => .ok (o, some (v, rest))
      | none, none => .error (if text == "help" then helpNotice rest else .usage)
      | some _, _ => .error .usage
    | .long name value =>
      match valueOption? verb name with
      | some option =>
        match value, rest with
        | some value, rest =>
          match o.set option value with
          | .error n => .error n
          | .ok o => options verb o rest
        | none, [] => .error .usage
        | none, value :: rest =>
          if isValue value then
            match o.set option value with
            | .error n => .error n
            | .ok o => options verb o rest
          else .error .usage
      | none =>
        if isOpportunistic verb name && value.isNone then
          if o.opportunistic then .error .usage
          else options verb { o with opportunistic := true } rest
        else .error (longNotice verb name value)

/-- The action with its options. -/
def action (o : Options) : Verb → Action
  | .list => .list
  | .contract => .contract
  | .smoke => .smoke o.opportunistic (o.artifactRoot.map Path.mk)
  | .check => .check o.opportunistic

/-- Reads the arguments. Of an option before and after the name of the action the later one
counts. -/
def read (args : List String) : Except Notice Errand :=
  match options none {} args with
  | .error n => .error n
  | .ok (_, none) => .error .usage
  | .ok (before, some (verb, rest)) =>
    match options (some verb) {} rest with
    | .error n => .error n
    | .ok (after, _) =>
      .ok {
        workspace := (after.workspace.or before.workspace).map Path.mk
        settingsFile := (after.settingsFile.or before.settingsFile).map Path.mk
        action := action after verb }

end CommandLine

end LintRoster
