import LintRoster.Shell.Step

/-!
# Carrying out scripts

`Evaluation.statement` carries out a statement, `Evaluation.text` a script, line by line, so that what
stands before a fault still counts. All functions are bounded by a number of steps that is far greater
than what any shell has time for.
-/

namespace LintRoster.Shell.Evaluation

open Machine (Exec Work)
open Step

/-- Whether the failure of a statement ends a shell with the flag for that. -/
def isChecked : Statement → Bool
  | .simple _ _ _ _ | .pipeline _ _ | .inBackground _ _ _ | .subshell _ _ _ => true
  | _ => false

/-- Whether there is nothing to carry out. -/
def isNothing : Statement → Bool
  | .nothing => true
  | _ => false

/-- Notes the line that faults are reported for. -/
def setLine (line : Nat) : Sh Unit :=
  modify fun s => { s with line }

/-- The signals that came, as far as actions are set for them. -/
def takeSignals : Sh (List Nat) := do
  if !(← hasTraps) then return []
  let new ← Sh.ask .caught
  let all := (← get).caught ++ new
  modify fun s => { s with caught := [] }
  return all.mergeSort fun a b => a ≤ b

variable (exec : Exec)

mutual

/-- Carries out a statement, and gives its status. -/
def statement : Nat → Manner → Statement → Sh Nat
  | 0, _, _ => throw .ended
  | fuel + 1, m, s => do
    if ← Sh.isOn 'n' then
      if m.last then throw .ended
      return (← get).status
    traps fuel
    let isChecked := isChecked s && !m.tested && (← Sh.isOn 'e')
    let result ← Sh.outcome (step fuel m s)
    match result with
    | .ok status =>
      if !isNothing s then Sh.setStatus status
      traps fuel
    | .error (.loop _) | .error (.round _) | .error (.function _) => pure ()
    | .error e => throw e
    let status := (← get).status
    if m.last || (isChecked && status != 0) then throw .ended
    match result with
    | .ok _ => return status
    | .error e => throw e

/-- Carries out a statement, without the consequences that its status has. -/
def step : Nat → Manner → Statement → Sh Nat
  | 0, _, _ => throw .ended
  | fuel + 1, m, s => do
    match s with
    | .nothing => return (← get).status
    | .simple line assigns words rs =>
      setLine line
      simple fuel m assigns words rs
    | .pipeline stages inBackground => pipeline fuel m stages inBackground
    | .inBackground line body rs =>
      setLine line
      let targets ← rs.mapM (Redirection.target (capture fuel))
      let id ← Sh.start do
        Sh.becomeChild
        Sh.goToBackground false
        child fuel ⟨false, true⟩ targets body
      discard (Sh.addJob [id] "" true)
      return 0
    | .negated body =>
      let status ← statement fuel Manner.test body
      return if status == 0 then 1 else 0
    | .both first second =>
      let status ← statement fuel Manner.test first
      if status == 0 then statement fuel m second else return status
    | .either first second =>
      let status ← statement fuel Manner.test first
      if status == 0 then return status else statement fuel m second
    | .sequence first second =>
      discard (statement fuel m.within first)
      statement fuel m second
    | .conditional test yes no =>
      let status ← statement fuel Manner.test test
      if status == 0 then statement fuel m yes
      else if isNothing no then return 0
      else statement fuel m no
    | .loop untilTrue test body =>
      let test := statement fuel Manner.test test
      let body := statement fuel m.within body
      inLoop (repeatWhile untilTrue test body fuel 0)
    | .each line name words body =>
      setLine line
      let fields ← words.mapM (Expansion.fields (capture fuel))
      inLoop (repeatEach name (statement fuel m.within body) fields.flatten 0)
    | .select line subject arms =>
      setLine line
      let subject ← Expansion.text (capture fuel) Aim.text subject
      match ← chosen? (capture fuel) subject.toList arms with
      | none => return 0
      | some body => if isNothing body then return 0 else statement fuel m body
    | .subshell line body rs =>
      setLine line
      let targets ← rs.mapM (Redirection.target (capture fuel))
      if m.last && !(← hasTraps) then
        Sh.becomeChild
        targets.forM (Redirection.apply (capture fuel) false)
        statement fuel m body
      else
        let id ← Sh.start do
          Sh.becomeChild
          child fuel m.final targets body
        Sh.finishJob (← Sh.addJob [id] "" false)
    | .redirected line body rs =>
      setLine line
      redirected (capture fuel) rs (statement fuel m.within body)
    | .define _ name body =>
      modify fun s =>
        { s with functions := (name, ⟨body⟩) :: s.functions.filter fun f => f.1 != name }
      return 0

/-- Carries out a simple command: its words are expanded first, then its redirections and its
assignments are made. -/
def simple : Nat → Manner → List (String × Word) → List Word → List Redirect → Sh Nat
  | 0, _, _, _, _ => throw .ended
  | fuel + 1, m, assigns, words, rs => do
    Sh.ask (.pass commandCost)
    modify fun s => { s with wordStatus := 0 }
    let h ← expandWords (capture fuel) words
    let prepared : Sh Nat := do
      let shown ← assignAll (capture fuel) h.isLocal (h.execs && h.words.length > 1) assigns
      trace (capture fuel) (shown ++ h.passed ++ h.words)
      named fuel m h
    let whole : Sh Nat := do
      let targets ← rs.mapM (Redirection.target (capture fuel))
      Redirection.begin
      let connected : Sh Nat := do
        let status ← Redirection.applyAll (capture fuel) targets
        if status == 0 then prepared
        else if h.isSpecial then throw .fault
        else return status
      Sh.ensuring connected (Redirection.undo h.execs)
    if h.isLocal then Sh.withLocals whole else whole

/-- Carries out what the words of a simple command name. -/
def named : Nat → Manner → Head → Sh Nat
  | 0, _, _ => throw .ended
  | fuel + 1, m, h => do
    match h.words with
    | [] => return (← get).wordStatus
    | name :: args =>
      if h.isBuiltin then builtin h.isSpecial name (dispatch fuel m name args)
      else
        let found ←
          match h.searchPath with
          | some path => Sh.meaningAlong path h.functions name
          | none => Sh.meaning h.functions name
        match found with
        | .function f => call args (statement fuel m.within f.body)
        | .builtin => builtin h.isSpecial name (dispatch fuel m name args)
        | .file paths => program exec m.last paths h.words
        | .missing fault => reportMissing name fault

/-- Carries out a command of the shell itself. -/
def dispatch : Nat → Manner → String → List String → Sh Nat
  | 0, _, _, _ => throw .ended
  | fuel + 1, m, name, args => do
    if name == "eval" then
      if args.isEmpty then return 0 else text fuel m.within (String.intercalate " " args)
    else if name == "." then source fuel args
    else if name == "exec" then
      match ← Builtin.operands args with
      | [] => return 0
      | program :: args =>
        launch exec (Exec.paths (← Sh.searchPath) program) (program :: args)
        return 0
    else if name == "command" then
      let (options, names) ← Builtin.options "pvV" args
      let path :=
        if options.any fun o => o.1 == 'p' then some Machine.defaultSearchPath else none
      match options.any fun o => o.1 != 'p', names with
      | true, name :: _ => Builtin.describe path (options.any fun o => o.1 == 'V') name
      | _, _ => return 0
    else
      match Builtin.find? name with
      | some act => act args
      | none => return 0

/-- Carries out a script in a file within the shell. -/
def source : Nat → List String → Sh Nat
  | 0, _ => throw .ended
  | fuel + 1, args => do
    match ← Builtin.operands args with
    | [] => return 0
    | name :: _ =>
      let path ← sourcePath name
      let script ← scriptOf path
      modify fun s => { s with command := some path }
      match ← Sh.outcome (text fuel Manner.plain script) with
      | .ok status => return status
      | .error (.function _) => return (← get).status
      | .error e => throw e

/-- Carries out a pipeline. -/
def pipeline : Nat → Manner → List Statement → Bool → Sh Nat
  | 0, _, _, _ => throw .ended
  | fuel + 1, m, stages, inBackground => do
    let run (s : Statement) : Sh Unit := child fuel m.final [] s
    let ids ← startStages run inBackground true none stages
    let job ← Sh.addJob ids "" inBackground
    if inBackground then return 0 else Sh.finishJob job

/-- Carries out a statement as all that a process of the shell has to do. -/
def child : Nat → Manner → List Redirection.Target → Statement → Sh Unit
  | 0, _, _, _ => throw .ended
  | fuel + 1, m, targets, body =>
    conclude fuel do
      targets.forM (Redirection.apply (capture fuel) false)
      discard (statement fuel m body)

/-- Carries out a statement in a process of its own, and gives what it writes. -/
def capture : Nat → Statement → Sh String
  | 0, _ => throw .ended
  | fuel + 1, body => do
    if isNothing body then return ""
    let (input, output) ← Sh.ask .pipe
    let id ← Sh.start do
      Sh.becomeChild
      connectStage none (some (input, output))
      child fuel ⟨false, true⟩ [] body
    Sh.ask (.close output)
    let job ← Sh.addJob [id] "" false
    let bytes := (← Sh.work (Work.readAll input)).toOption.getD []
    Sh.ask (.close input)
    let status ← Sh.finishJob job
    modify fun s => { s with wordStatus := status }
    return Bytes.ofBytes (bytes.filter (· != 0))

/-- Carries out the actions for signals that came. -/
def traps : Nat → Sh Unit
  | 0 => throw .ended
  | fuel + 1 => do
    match ← takeSignals with
    | [] => pure ()
    | signals =>
      let outer := (← get).finalStatus
      modify fun s => { s with finalStatus := s.finalStatus.or (some s.status) }
      actions fuel signals
      modify fun s => { s with finalStatus := outer }

/-- Carries out the actions for signals in order. An action leaves the status as it was, unless it
leaves a function with a status. -/
def actions : Nat → List Nat → Sh Unit
  | 0, _ => throw .ended
  | _, [] => pure ()
  | fuel + 1, signal :: rest => do
    let s ← get
    match s.traps.find? fun trap => trap.1 == signal && trap.2 != "" with
    | none => actions fuel rest
    | some (_, action) =>
      match ← Sh.outcome (text fuel Manner.plain action) with
      | .ok _ =>
        Sh.setStatus s.status
        actions fuel rest
      | .error e =>
        modify fun s => { s with caught := s.caught ++ rest }
        match e with
        | .function false | .loop _ | .round _ => Sh.setStatus s.status
        | _ => pure ()
        throw e

/-- Does something as all that a shell has to do, and then what is set for its end. -/
def conclude : Nat → Sh Unit → Sh Unit
  | 0, _ => throw .ended
  | fuel + 1, act => do
    let result ← Sh.outcome act
    let status := statusAfter (← get) result
    modify fun s => { s with status, finalStatus := some status, command := none }
    match (← get).traps.find? fun trap => trap.1 == 0 with
    | none => pure ()
    | some (_, action) =>
      modify fun s => { s with traps := s.traps.filter fun trap => trap.1 != 0 }
      let result ← Sh.outcome (text fuel Manner.plain action)
      let status := statusAfterTrap status result (← get)
      modify fun s => { s with status }
    discard Sh.flush

/-- Carries out a script, and gives the status of its last statement. -/
def text : Nat → Manner → String → Sh Nat
  | 0, _, _ => throw .ended
  | fuel + 1, m, script => lines fuel m (Source.ofText script []) 0

/-- Carries out the lines of a script that are left. -/
def lines : Nat → Manner → Source → Nat → Sh Nat
  | 0, _, _, _ => throw .ended
  | fuel + 1, m, source, status => do
    let source := { source with aliases := (← get).aliases }
    match Reader.next source with
    | .error e =>
      setLine e.line
      Sh.fault e.complaint.message
    | .ok line =>
      match line.statement with
      | none => return status
      | some s =>
        let new ← statement fuel { m with last := m.last && line.isLast } s
        lines fuel m line.rest (if isNothing s then status else new)

end

end LintRoster.Shell.Evaluation
