import LintRoster.Machine.Signal
import LintRoster.Shell.State

/-!
# Jobs

A job is what a shell started as one: a process, or the stages of a pipeline. The shell waits for the
jobs that it does not leave in the background, and remembers how the others ended until somebody
asks.
-/

namespace LintRoster.Shell

open Machine (Termination Task Work Signal.text)

namespace Job

/-- Whether all processes of a job have ended. -/
def isDone (j : Job) : Bool :=
  j.processes.all fun p => p.2.isSome

/-- The status that a process leaves behind. -/
def statusOf : Termination → Nat
  | .exited status => status
  | .killed signal => 128 + signal

/-- The status of a job, which is the one of its last process. -/
def status (j : Job) : Nat :=
  ((j.processes.getLast?.bind Prod.snd).map statusOf).getD 0

/-- The job with the end of a process noted. -/
def note (child : Nat) (how : Termination) (j : Job) : Job :=
  { j with processes := j.processes.map fun p => if p.1 == child then (child, some how) else p }

/-- Whether a process belongs to a job. -/
def has (child : Nat) (j : Job) : Bool :=
  j.processes.any fun p => p.1 == child

end Job

namespace State

/-- The job with a number. -/
def job? (s : State) (number : Nat) : Option Job :=
  s.jobs.find? fun j => j.number == number

/-- The least number that no job has. -/
def freeJobNumber (s : State) : Nat :=
  ((List.range (s.jobs.length + 1)).find? fun n => (s.job? (n + 1)).isNone).getD 0 + 1

/-- The state without a job. -/
def forgetJob (number : Nat) (s : State) : State :=
  { s with jobs := s.jobs.filter fun j => j.number != number }

end State

namespace Sh

/-- What a process still has to do that does something as a shell. -/
def toTask (act : Sh Unit) (s : State) : Task :=
  (act.run.run s) fun (_, s) => .finish s.status

/-- A process that a shell started does not see its jobs, and only signals that are ignored stay
so. -/
def becomeChild : Sh Unit := do
  for (signal, action) in (← get).traps do
    if signal != 0 && action != "" then ask (.dispose signal .usual)
  modify fun s =>
    { s with traps := s.traps.filter fun trap => trap.2 == "", jobs := [], finalStatus := none }

/-- A process in the background is not bothered by the signals of a terminal, and has no input. -/
def goToBackground (hasInput : Bool) : Sh Unit := do
  ask (.dispose 2 .ignored)
  ask (.dispose 3 .ignored)
  if !hasInput then
    ask (.close 0)
    match ← ask (.open ⟨"/dev/null"⟩ .read) with
    | .ok n =>
      discard (ask (.copy n 0))
      ask (.close n)
    | .error _ => pure ()

/-- Starts a process that does something as a shell, and gives its number. -/
def start (act : Sh Unit) : Sh Nat := do
  let s ← get
  work (Work.fork (toTask act s))

/-- Makes a job of processes, and gives its number. Jobs that somebody has asked for make room. -/
def addJob (ids : List Nat) (text : String) (inBackground : Bool) : Sh Nat := do
  modify fun s => { s with jobs := s.jobs.filter fun j => !(j.isDone && j.isKnown) }
  let number := (← get).freeJobNumber
  let job : Job := ⟨number, ids.map fun id => (id, none), text, inBackground, false⟩
  modify fun s => { s with jobs := job :: s.jobs }
  if inBackground then modify fun s => { s with lastJob := ids.getLast? }
  return number

/-- Says that a signal ended a process that was waited for. -/
def announce : Termination → Sh Unit
  | .exited _ => pure ()
  | .killed signal => if signal == 2 || signal == 13 then pure () else
    write 2 (Signal.text signal ++ "\n")

/-- Notes the end of a process, and announces it if it belongs to the job that is waited for. -/
def noteEnd (waitedFor : Option Nat) (child : Nat) (how : Termination) : Sh Unit := do
  let s ← get
  modify fun s => { s with jobs := s.jobs.map (Job.note child how) }
  if (waitedFor.bind s.job?).any (Job.has child) then announce how

/-- Notes the ends of all processes that have ended already. -/
def noteEnds (waitedFor : Option Nat) : Nat → Sh Unit
  | 0 => pure ()
  | fuel + 1 => do
    match ← ask .ended with
    | none => pure ()
    | some (child, how) =>
      noteEnd waitedFor child how
      noteEnds waitedFor fuel

/-- Notes the ends of processes until a condition holds. Tells whether a signal came first. -/
def awaitUntil (holds : State → Bool) (waitedFor : Option Nat) (interruptible : Bool) :
    Nat → Sh Bool
  | 0 => return false
  | fuel + 1 => do
    if holds (← get) then return false
    match ← ask (.wait none interruptible) with
    | .noChild => return false
    | .interrupted => return true
    | .ended child how =>
      noteEnd waitedFor child how
      awaitUntil holds waitedFor interruptible fuel

/-- Whether a job is done, or gone. -/
def isJobDone (number : Nat) (s : State) : Bool :=
  (s.job? number).all Job.isDone

/-- Waits for a job, and gives its status. -/
def finishJob (number : Nat) : Sh Nat := do
  discard (awaitUntil (isJobDone number) (some number) false Work.rounds)
  let status := (((← get).job? number).map Job.status).getD 0
  modify (State.forgetJob number)
  return status

end Sh

end LintRoster.Shell
