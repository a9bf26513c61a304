import LintRoster.Shell.Builtin

/-!
# Commands on processes

The commands that list jobs, wait for them, send signals and set traps. A shell without a terminal
moves no jobs between foreground and background.
-/

namespace LintRoster.Shell.Builtin

open Machine (Termination Work Signal.text Signal.ofWord? Signal.name? Signal.names)

/-! ## Listing jobs -/

/-- The column at which the text of a job begins. -/
def textColumn : Nat :=
  33

/-- Blanks, at least one of them. -/
def blanks (n : Nat) : String :=
  String.ofList (List.replicate (max n 1) ' ')

/-- How a job is, in words. -/
def conditionText (j : Job) : String :=
  if !j.isDone then "Running"
  else
    match j.processes.getLast?.bind Prod.snd with
    | some (.killed signal) => Signal.text signal
    | some (.exited 0) | none => "Done"
    | some (.exited n) => "Done(" ++ toString n ++ ")"

/-- The number of a job, with a mark for the present one and the one before it. -/
def jobLabel (s : State) (j : Job) : String :=
  let isNth (n : Nat) : Bool := (s.jobs[n]?.map Job.number) == some j.number
  let mark := if isNth 0 then "+" else if isNth 1 then "-" else " "
  "[" ++ toString j.number ++ "] " ++ mark ++ " "

/-- A line about a job. Where `numbers` is set, it shows the numbers of its processes. -/
def jobText (s : State) (numbers : Bool) (j : Job) : String :=
  let label := jobLabel s j
  let padded (t : String) : String := t ++ blanks (textColumn - t.length)
  let number (p : Nat × Option Termination) : String := if numbers then toString p.1 ++ " " else ""
  let first := padded (label ++ ((j.processes.head?.map number).getD "") ++ conditionText j)
  let indent := String.ofList (List.replicate label.length ' ')
  let more (p : Nat × Option Termination) : String :=
    if numbers then " |\n" ++ padded (indent ++ number p) else " | "
  first ++ String.join ((j.processes.drop 1).map more) ++ "\n"

/-- Shows a job, and forgets it if it is done. -/
def showJob (options : List (Char × String)) (j : Job) : Sh Unit := do
  let s ← get
  let mode := (options.getLast?.map Prod.fst).getD ' '
  if mode == 'p' then
    Sh.say (((j.processes.head?.map fun p => toString p.1).getD "") ++ "\n")
  else Sh.say (jobText s (mode == 'l') j)
  if j.isDone then modify (State.forgetJob j.number)

/-- The job that a word names. -/
def jobNamed (w : String) : Sh Job := do
  let s ← get
  let refuse {α : Type} (message : String) : Sh α := Sh.fault message
  match w.toList with
  | '%' :: cs =>
    if [[], ['+'], ['%']].contains cs then
      match s.jobs with
      | j :: _ => return j
      | [] => refuse "No current job"
    else if cs == ['-'] then
      match s.jobs with
      | _ :: j :: _ => return j
      | _ => refuse "No previous job"
    else
      match (String.ofList cs).toNat?.bind s.job? with
      | some j => return j
      | none => refuse ("No such job: " ++ w)
  | _ => refuse ("No such job: " ++ w)

/-- Lists jobs. -/
def jobs : Builtin := fun args => do
  let (options, names) ← options "lp" args
  Sh.noteEnds none Work.rounds
  if names.isEmpty then (← get).jobs.forM (showJob options)
  else
    for name in names do
      showJob options (← jobNamed name)
  return 0

/-- Refuses to move a job, as a shell without a terminal does. -/
def moveJob : Builtin := fun args => do
  let names ← operands args
  discard (jobNamed (names.headD "%"))
  Sh.fault ("job " ++ names.headD "(null)" ++ " not created under job control")

/-! ## Waiting -/

/-- What a process is waited for by: its job, if the shell has one with it in the last place. -/
def jobOfProcess? (s : State) (id : Nat) : Option Job :=
  s.jobs.find? fun j => (j.processes.getLast?.map Prod.fst) == some id

/-- The status after a caught signal came while a job was waited for. -/
def interruptedStatus : Sh Nat := do
  let signals ← Sh.ask .caught
  modify fun s => { s with caught := s.caught ++ signals }
  return 128 + signals.headD 0

/-- Waits for one job, and gives its status. There is none if a signal came first. -/
def waitForJob (w : String) : Sh (Option Nat) := do
  let job? ←
    if w.toList.head? == some '%' then some <$> jobNamed w
    else do
      let id ← Sh.numberOf w
      pure (jobOfProcess? (← get) id)
  match job? with
  | none => return some 127
  | some j =>
    if ← Sh.awaitUntil (Sh.isJobDone j.number) (some j.number) true Work.rounds then return none
    modify fun s => { s with jobs := s.jobs.map fun other =>
      if other.number == j.number then { other with isKnown := true } else other }
    return (((← get).job? j.number).map Job.status)

/-- Waits for jobs in order, and gives the status of the last one. -/
def waitForJobs (status : Nat) : List String → Sh Nat
  | [] => return status
  | w :: ws => do
    match ← waitForJob w with
    | none => interruptedStatus
    | some status => waitForJobs status ws

/-- Waits for jobs, or for all of them. -/
def wait : Builtin := fun args => do
  let names ← operands args
  if !names.isEmpty then waitForJobs 127 names
  else
    let areDone (s : State) : Bool := s.jobs.all Job.isDone
    if ← Sh.awaitUntil areDone none true Work.rounds then interruptedStatus
    else
      modify fun s => { s with jobs := s.jobs.map fun j => { j with isKnown := true } }
      return 0

/-! ## Signals -/

/-- How the command is used that sends signals. -/
def killUsage : String :=
  "Usage: kill [-s sigspec | -signum | -sigspec] [pid | job]... or\nkill -l [exitstatus]"

/-- Names the signals, or the one that a status tells of. -/
def listSignals (args : List String) : Sh Nat := do
  match args with
  | [] => Sh.say (String.join ("0\n" :: (Signal.names.drop 1).map (· ++ "\n")))
  | arg :: _ =>
    let n ← Sh.numberOf arg
    let signal := if n > 128 then n - 128 else n
    match if signal == 0 then none else Signal.name? signal with
    | some name => Sh.say (name ++ "\n")
    | none => Sh.fault ("invalid signal number or exit status: " ++ arg)
  return 0

/-- Sends a signal to what a word names. Tells whether that was possible. -/
def sendSignal (signal : Nat) (w : String) : Sh Bool := do
  match w.toList with
  | '%' :: _ =>
    discard (jobNamed w)
    return false
  | '-' :: cs =>
    discard (Sh.numberOf (String.ofList cs))
    return false
  | _ =>
    let id ← Sh.numberOf w
    if id == 0 then
      Sh.ask (.killAll signal)
      return true
    else Sh.ask (.kill id signal)

/-- Sends a signal to processes. -/
def sendSignals (signal : Nat) (targets : List String) : Sh Nat := do
  if targets.isEmpty then Sh.fault killUsage
  let mut status := 0
  for w in targets do
    if !(← sendSignal signal w) then
      Sh.report "No such process\n"
      status := 1
  return status

/-- The signal that is sent unless another one is named. -/
def usualSignal : Nat :=
  15

/-- Sends signals, or names them. -/
def kill : Builtin := fun args => do
  match args with
  | [] => Sh.fault killUsage
  | arg :: rest =>
    let written :=
      match arg.toList with
      | '-' :: cs => Signal.ofWord? false (String.ofList cs)
      | _ => none
    match written with
    | some signal => sendSignals signal rest
    | none =>
      let (options, targets) ← options "ls:" args
      let mut signal := none
      for (_, name) in options.filter fun o => o.1 == 's' do
        match Signal.ofWord? false name with
        | some n => signal := some n
        | none => Sh.fault ("invalid signal number or name: " ++ name)
      if options.any fun o => o.1 == 'l' then
        if signal.isSome then Sh.fault killUsage
        listSignals targets
      else sendSignals (signal.getD usualSignal) targets

/-- Lists the traps that are set. -/
def listTraps : Sh Unit := do
  let s ← get
  for n in List.range Signal.names.length do
    match s.traps.find? fun trap => trap.1 == n with
    | some (_, action) =>
      Sh.say ("trap -- " ++ quoted action ++ " " ++ (Signal.name? n).getD "" ++ "\n")
    | none => pure ()

/-- Makes a signal do what its trap says. A signal that was ignored from the beginning stays so. -/
def disposeTrap (signal : Nat) (action : Option String) : Sh Unit := do
  let wasOurs := (← get).traps.any fun trap => trap.1 == signal
  if signal != 0 then
    let isFixed := (← Sh.ask (.disposition signal)) == .ignored && !wasOurs
    if !isFixed then
      Sh.ask (.dispose signal (match action with
        | none => .usual
        | some "" => .ignored
        | some _ => .caught))

/-- Sets or takes away the trap for a signal. -/
def setTrap (signal : Nat) (action : Option String) : Sh Unit := do
  disposeTrap signal action
  modify fun s =>
    let others := s.traps.filter fun trap => trap.1 != signal
    { s with traps := others ++ (action.map fun a => (signal, a)).toList }

/-- Sets the traps for several signals. -/
def setTraps (action : Option String) : List String → Sh Nat
  | [] => return 0
  | w :: ws => do
    match Signal.ofWord? true w with
    | none =>
      Sh.write 2 ("trap: " ++ w ++ ": bad trap\n")
      return 1
    | some signal =>
      setTrap signal action
      setTraps action ws

/-- Sets traps, or lists them. -/
def trap : Builtin := fun args => do
  match ← operands args with
  | [] =>
    listTraps
    return 0
  | [w] => setTraps none [w]
  | w :: ws =>
    let isNumber := w != "" && w.toList.all Char.isDigit && (Signal.ofWord? true w).isSome
    if isNumber then setTraps none (w :: ws)
    else setTraps (if w == "-" then none else some w) ws

end LintRoster.Shell.Builtin
