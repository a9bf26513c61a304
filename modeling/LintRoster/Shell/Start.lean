import LintRoster.Shell.Evaluation

/-!
# Starting a shell

A shell is started as a program: with a script among its arguments, in a file, or in its input. It
begins with the variables of its environment.
-/

namespace LintRoster.Shell.Start

open Machine (Call Exec Work)

/-- The variables that every shell begins with, with their values. -/
def ownVariables : List (String × String) :=
  [("IFS", usualSeparators), ("OPTIND", "1"), ("PS1", "# "), ("PS2", "> "), ("PS4", "+ ")]

/-- Whether the working directory of an environment is a path to the current directory. -/
def isDirectory (fs : FileSystem) (path : String) : Bool :=
  path.toList.head? == some '/' &&
    match fs.dirPlace (Glob.pathOf path) with
    | .ok place => place == fs.cwd
    | .error _ => false

/-- The path of the current directory as a new shell knows it. -/
def directory (environment : Machine.Environment) : Work String :=
  Work.look fun fs =>
    match environment.get? "PWD" with
    | some path => if isDirectory fs path then path else Bytes.ofText (FileSystem.absolute fs.cwd).text
    | none => Bytes.ofText (FileSystem.absolute fs.cwd).text

/-- The variables that a shell begins with. -/
def variablesFrom (environment : Machine.Environment) (directory : String) (parent : Nat) :
    NameMap Variable :=
  let given : NameMap Variable :=
    .ofList ((environment.filter fun entry => Word.isName entry.1).map
      fun (name, value) => (name, ⟨some value, true, false⟩))
  let add (vs : NameMap Variable) (name value : String) (isExported : Bool) : NameMap Variable :=
    let old := (vs.get? name).getD ⟨none, isExported, false⟩
    vs.insert name { old with value := some value, isExported := old.isExported || isExported }
  let vs := ownVariables.foldl (fun vs entry => add vs entry.1 entry.2 false) given
  let vs := if (vs.get? "PATH").isSome then vs else add vs "PATH" Machine.defaultSearchPath false
  add (add vs "PPID" (toString parent) false) "PWD" directory true

/-- The state of a new shell. -/
def stateFrom (call : Call) : Work State := do
  let (id, parent) ← Work.ask .identity
  let directory ← directory call.environment
  return {
    bindings := variablesFrom call.environment directory parent
    locals := []
    functions := []
    aliases := []
    options := []
    name := call.name
    arguments := []
    optionIndex := 1
    optionOffset := none
    status := 0
    wordStatus := 0
    finalStatus := none
    line := 0
    command := none
    loops := 0
    traps := []
    caught := []
    processId := id
    lastJob := none
    jobs := []
    found := []
    saved := []
    directory
    pending := "" }

/-- What the arguments of a shell ask for: whether the script is one of them, and the arguments behind
the options. -/
structure Request where
  hasScript : Bool
  operands : List String

/-- Reads the options in front of the arguments of a shell. -/
def optionsFrom : Nat → Bool → List String → Sh Request
  | 0, hasScript, args => return ⟨hasScript, args⟩
  | _, hasScript, [] => return ⟨hasScript, []⟩
  | fuel + 1, hasScript, arg :: args => do
    match arg.toList with
    | ['-'] | ['-', '-'] => return ⟨hasScript, args⟩
    | '-' :: cs =>
      lettersFrom fuel (hasScript || cs.contains 'c') true cs args
    | '+' :: cs => lettersFrom fuel hasScript false cs args
    | _ => return ⟨hasScript, arg :: args⟩
where
  /-- Reads the letters of one argument, and the options after it. -/
  lettersFrom (fuel : Nat) (hasScript value : Bool) : List Char → List String → Sh Request
    | [], args => optionsFrom fuel hasScript args
    | 'o' :: cs, args => do
      match args with
      | [] =>
        let on := (← get).options
        Sh.say (if value then Flag.listing on else Flag.commands on)
        lettersFrom fuel hasScript value cs []
      | name :: args =>
        Flag.switchNamed name value
        lettersFrom fuel hasScript value cs args
    | c :: cs, args => do
      if (c == 'c' && value) || c == 'l' then pure ()
      else Flag.switch c value
      lettersFrom fuel hasScript value cs args

/-- Gives the shell its arguments, and possibly a name. -/
def setOperands (operands : List String) : Sh Unit :=
  modify fun s => { s with name := operands.headD s.name, arguments := operands.drop 1 }

variable (exec : Exec)

/-- Echoes the part of a script that was read, where that is asked for. -/
def echo (before after : Source) : Sh Unit := do
  if ← Sh.isOn 'v' then
    Sh.write 2 (String.ofList (before.rest.take (before.rest.length - after.rest.length)))

/-- Carries out a script that is read line by line. -/
def script : Nat → Source → Sh Unit
  | 0, _ => throw .ended
  | fuel + 1, source => do
    let source := { source with aliases := (← get).aliases }
    match Reader.next source with
    | .error e =>
      Evaluation.setLine e.line
      Sh.fault e.complaint.message
    | .ok line =>
      echo source line.rest
      match line.statement with
      | none => pure ()
      | some s =>
        discard (Evaluation.statement exec Work.rounds Step.Manner.plain s)
        script fuel line.rest

/-- Carries out a script from a file or from the input. -/
def wholeScript (text : String) : Sh Unit :=
  script exec Work.rounds (Source.ofText text [])

/-- Reads the script in a file. A directory is an empty script. -/
def fileScript (path : String) : Sh String :=
  Step.scriptOf path

/-- Reads the script in the input. -/
def inputScript : Sh String := do
  let bytes := (← Sh.work (Work.readAll 0)).toOption.getD []
  return Bytes.ofBytes (bytes.filter (· != 0))

/-- Does what the arguments of a shell ask for. -/
def carryOut (args : List String) : Sh Unit := do
  let request ← optionsFrom (args.length + 1) false args
  discard Sh.flush
  let readsInput := (← Sh.isOn 's') || request.operands.isEmpty
  match request.hasScript, request.operands with
  | true, [] => Sh.fault "-c requires an argument"
  | true, text :: operands =>
    setOperands operands
    let isLast := !(← Sh.isOn 's')
    discard (Evaluation.text exec Work.rounds ⟨false, isLast⟩ text)
    if !isLast then wholeScript exec (← inputScript)
  | false, operands =>
    if readsInput then
      modify fun s => { s with options := Flag.switched 's' true s.options, arguments := operands }
      wholeScript exec (← inputScript)
    else
      let text ← fileScript (operands.headD "")
      setOperands operands
      wholeScript exec text

/-- The shell as a program. -/
def run (call : Call) : Work Nat := do
  let s ← stateFrom call
  let (_, after) ← (Evaluation.conclude exec Work.rounds (carryOut exec call.arguments)).run.run s
  return after.status

end LintRoster.Shell.Start
