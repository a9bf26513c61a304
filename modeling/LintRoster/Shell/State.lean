import LintRoster.Machine.Task
import LintRoster.NameMap
import LintRoster.Shell.Numeral
import LintRoster.Shell.Rows
import LintRoster.Shell.Source
import LintRoster.Text.Bytes

/-!
# The state of a shell

A shell has variables, arguments, functions, aliases, options, traps and jobs. What it does is written
in the monad `Sh`: it works on its state, makes requests of the machine, and may leave what it is
doing, be it a loop, a function or the whole shell.
-/

namespace LintRoster.Shell

open Machine (Termination Task Request Work)

/-- What a shell leaves before its end. -/
inductive Leave where
  | loop (levels : Nat)
  | round (levels : Nat)
  /-- A function or a sourced script, perhaps with a status that was asked for. -/
  | function (given : Bool)
  /-- The shell, because a command asked for that. -/
  | shell
  /-- The shell, because nothing is left to be done in it. -/
  | ended
  /-- The shell, because of a fault that was reported. -/
  | fault
deriving DecidableEq

/-- A variable. One without a value may still have properties. -/
structure Variable where
  value : Option String
  isExported : Bool
  isFixed : Bool
deriving DecidableEq, Inhabited

/-- A function, which is known by its body. -/
structure Function where
  body : Statement

/-- Processes that the shell started together, with the ends that it knows of. -/
structure Job where
  number : Nat
  processes : List (Nat × Option Termination)
  text : String
  inBackground : Bool
  /-- Whether somebody asked how the job ended. -/
  isKnown : Bool

/-- What is to be put back after a function or a command: variables, and perhaps the options. -/
structure Locals where
  bindings : List (String × Option Variable)
  options : Option (List Char)

/-- A stream as it was before a redirection: the number that it is kept under, if it was open. -/
structure Saved where
  stream : Nat
  kept : Option Nat

/-- The state of a shell. -/
structure State where
  bindings : NameMap Variable
  /-- What is to be put back after functions and commands, innermost first. -/
  locals : List Locals
  functions : List (String × Function)
  aliases : List (String × String)
  /-- The letters of the options that are on. -/
  options : List Char
  name : String
  arguments : List String
  /-- The argument at which options are looked for, and how far its letters were read. -/
  optionIndex : Nat
  optionOffset : Option Nat
  status : Nat
  /-- The status of the last command whose output was put into a word. -/
  wordStatus : Nat
  /-- The status that the shell ends with unless a trap gives another one. -/
  finalStatus : Option Nat
  /-- The line that faults are reported for. -/
  line : Nat
  /-- The command of the shell that is at work. -/
  command : Option String
  loops : Nat
  traps : List (Nat × String)
  /-- The signals that came and whose traps are still to be carried out. -/
  caught : List Nat
  /-- The number by which the shell is known. -/
  processId : Nat
  lastJob : Option Nat
  jobs : List Job
  /-- The commands whose files were found. -/
  found : List String
  /-- The streams to be put back after redirections, innermost first. -/
  saved : List (List Saved)
  /-- The path of the current directory, as it was reached. -/
  directory : String
  /-- What the present command wrote and still holds back. -/
  pending : String

/-- What a shell does. -/
abbrev Sh :=
  ExceptT Leave (StateT State Work)

namespace Sh

/-- Makes a request. -/
def ask {α : Type} (request : Request α) : Sh α :=
  ExceptT.lift (StateT.lift (Work.ask request))

/-- Does some work. -/
def work {α : Type} (w : Work α) : Sh α :=
  ExceptT.lift (StateT.lift w)

/-- Looks at files. -/
def look {α : Type} (f : FileSystem → α) : Sh α :=
  work (Work.look f)

/-- Writes a text to a stream. -/
def write (stream : Nat) (text : String) : Sh Unit :=
  discard (ask (.write stream (Bytes.toBytes text)))

/-- Sets the status. -/
def setStatus (status : Nat) : Sh Unit :=
  modify fun s => { s with status }

/-- Reports something about the present command. -/
def report (message : String) : Sh Unit := do
  let s ← get
  let command :=
    match s.command with
    | some c => c ++ ": "
    | none => ""
  write 2 (s.name ++ ": " ++ toString s.line ++ ": " ++ command ++ message ++ "\n")

/-- Writes a text, which is held back until the present command ends. -/
def say (text : String) : Sh Unit :=
  modify fun s => { s with pending := s.pending ++ text }

/-- Writes what was held back. Tells whether that was possible. -/
def flush : Sh Bool := do
  let text := (← get).pending
  if text.isEmpty then return true
  modify fun s => { s with pending := "" }
  match ← ask (.write 1 (Bytes.toBytes text)) with
  | .ok () => return true
  | .error _ => return false

/-- Leaves the shell because of a fault. -/
def fault {α : Type} (message : String) : Sh α := do
  report message
  discard flush
  setStatus 2
  throw .fault

/-- What came of something that may have been left, with all that it changed. -/
def outcome {α : Type} (act : Sh α) : Sh (Except Leave α) :=
  ExceptT.lift (ExceptT.run act)

/-- Does something, and something else afterwards even if the first was left. -/
def ensuring {α : Type} (act : Sh α) (after : Sh Unit) : Sh α := do
  let result ← outcome act
  after
  match result with
  | .ok a => return a
  | .error e => throw e

/-- Whether an option is on. -/
def isOn (option : Char) : Sh Bool := do
  return (← get).options.contains option

end Sh

/-! ## Variables -/

/-- The separators of fields that a shell begins with. -/
def usualSeparators : String :=
  " \t\n"

namespace State

/-- A variable with its properties. -/
def binding? (s : State) (name : String) : Option Variable :=
  s.bindings.get? name

/-- The value of a variable. -/
def value? (s : State) (name : String) : Option String :=
  (s.binding? name).bind Variable.value

/-- The separators of fields. -/
def separators (s : State) : List Char :=
  ((s.value? "IFS").getD usualSeparators).toList

/-- The state with a variable as given, or without it. -/
def restore (name : String) (v : Option Variable) (s : State) : State :=
  match v with
  | some v => { s with bindings := s.bindings.insert name v }
  | none =>
    { s with
      bindings := ⟨s.bindings.toList.filter (·.1 != name), s.bindings.sorted.filter _⟩ }

/-- The variables that other programs see. -/
def environment (s : State) : List (String × String) :=
  Rows.ordered Rows.variableCount (s.bindings.toList.filterMap fun (name, v) =>
    if v.isExported then v.value.map fun value => (name, value) else none)

end State

namespace Sh

/-- Refuses to change a variable that is fixed. -/
def checkFixed (name : String) : Sh Unit := do
  if ((← get).binding? name).any Variable.isFixed then fault (name ++ ": is read only")

/-- Refuses a text that should be a number. -/
def badNumber {α : Type} (text : String) : Sh α :=
  fault ("Illegal number: " ++ text)

/-- The natural number that a text means, which must be one. -/
def numberOf (text : String) : Sh Nat := do
  match Numeral.value? false text with
  | some n => if 0 ≤ n && n ≤ 2147483647 then return n.toNat else badNumber text
  | none => badNumber text

/-- What else happens when a variable gets a value. -/
def noteChange (name : String) (value : Option String) : Sh Unit := do
  if name == "OPTIND" then
    match value with
    | some text =>
      let n ← numberOf text
      modify fun s => { s with optionIndex := max n 1, optionOffset := none }
    | none => pure ()
  else if name == "PATH" then modify fun s => { s with found := [] }

/-- Gives a variable a value. -/
def assign (name value : String) : Sh Unit := do
  checkFixed name
  noteChange name (some value)
  modify fun s =>
    let old := (s.binding? name).getD default
    s.restore name (some { old with
      value := some value, isExported := old.isExported || s.options.contains 'a' })

/-- Refuses a name that no variable can have. -/
def checkName (name : String) : Sh Unit := do
  if !Word.isName name then fault (name ++ ": bad variable name")

/-- Gives a variable a value, unless the name is none. -/
def assignNamed (name value : String) : Sh Unit := do
  checkName name
  assign name value

/-- Takes a variable away. -/
def unset (name : String) : Sh Unit := do
  checkFixed name
  noteChange name none
  modify fun s => s.restore name none

/-- Makes programs see a variable. -/
def exportName (name : String) : Sh Unit :=
  modify fun s =>
    let old := (s.binding? name).getD default
    s.restore name (some { old with isExported := true })

/-- Makes a variable fixed. -/
def fixName (name : String) : Sh Unit :=
  modify fun s =>
    let old := (s.binding? name).getD default
    s.restore name (some { old with isFixed := true })

/-- Changes what is to be put back after the innermost function or command. -/
def changeLocals (f : State → Locals → Locals) : Sh Unit :=
  modify fun s =>
    match s.locals with
    | [] => s
    | frame :: frames => { s with locals := f s frame :: frames }

/-- Remembers a variable, to be put back later. -/
def keepLocal (name : String) : Sh Unit :=
  changeLocals fun s frame =>
    if frame.bindings.any fun entry => entry.1 == name then frame
    else { frame with bindings := (name, s.binding? name) :: frame.bindings }

/-- Remembers the options, to be put back later. -/
def keepOptions : Sh Unit :=
  changeLocals fun s frame => { frame with options := frame.options.or (some s.options) }

/-- The state with what was remembered put back. -/
def putBack (frame : Locals) (s : State) : State :=
  let s := frame.bindings.foldl (fun s entry => s.restore entry.1 entry.2) s
  { s with options := frame.options.getD s.options }

/-- Does something, and puts back what was remembered meanwhile. -/
def withLocals {α : Type} (act : Sh α) : Sh α := do
  modify fun s => { s with locals := ⟨[], none⟩ :: s.locals }
  ensuring act do
    modify fun s =>
      match s.locals with
      | [] => s
      | frame :: frames => putBack frame { s with locals := frames }

end Sh

end LintRoster.Shell
