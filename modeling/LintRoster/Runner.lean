import LintRoster.Command
import LintRoster.Error
import LintRoster.FileSystem

/-!
# Runners and worlds

A runner is whatever carries out commands: it answers each with an output or a fault, and may change
files on the way. The programs of a `Runner` have the faults of `RunFault`, but a check takes any
runner whose faults are errors of some kind. A world is what a check acts on: the files, the memory of the
runner, and a record of all commands that were handed to the runner. `World.run` is the only way to
reach the runner.
-/

namespace LintRoster

/-- Why a command has no output. -/
inductive RunFault where
  /-- The command took longer than its limit. -/
  | timeout
  /-- The program could not be started. -/
  | launch (cause : FileFault)
  /-- The output could not be read. -/
  | io (cause : FileFault)
deriving DecidableEq, Repr

namespace RunFault

/-- The error that a fault of a command is. -/
def toError (c : Command) : RunFault → Error
  | timeout => .toolTimeout c.program c.limit
  | launch cause => .toolLaunch c.program cause
  | io cause => .io cause

end RunFault

/-- The faults of type `φ` that a command can have are errors. -/
class CommandFault (φ : Type) where
  /-- The error that a fault of a command is. -/
  toError : Command → φ → Error

instance : CommandFault RunFault := ⟨RunFault.toError⟩

/-- A fault that is an error already stays as it is. -/
instance : CommandFault Error := ⟨fun _ e => e⟩

/-- Carries out commands. Its memory has type `σ`, and its faults have type `φ`. -/
structure RunnerWith (σ φ : Type) where
  /-- Whether a program can be found. -/
  locates : FileSystem → String → Bool
  /-- What a command leads to, with the files and the memory after it. -/
  answer : Command → FileSystem → σ → Except φ Output × FileSystem × σ

/-- A runner with the faults that programs have. -/
abbrev Runner (σ : Type) := RunnerWith σ RunFault

/-- What a check acts on. -/
structure World (σ : Type) where
  files : FileSystem
  memory : σ
  calls : List Command

namespace World

variable {σ φ : Type}

/-- A world in which nothing was run yet. -/
def new (files : FileSystem) (memory : σ) : World σ :=
  ⟨files, memory, []⟩

/-- Hands a command to a runner, and records it. -/
def run (r : RunnerWith σ φ) (c : Command) (w : World σ) : Except φ Output × World σ :=
  let (reply, files, memory) := r.answer c w.files w.memory
  (reply, ⟨files, memory, w.calls ++ [c]⟩)

end World

end LintRoster
