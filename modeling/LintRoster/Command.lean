import LintRoster.Path
import LintRoster.Span

/-!
# Commands and their output

A command is what is asked of the outside: a program, its arguments, the directory it runs in and
the time it may take. An output is what a program that ended leaves behind.
-/

namespace LintRoster

/-- One run of an external program. -/
structure Command where
  program : String
  args : List String
  dir : Path
  limit : Span
deriving DecidableEq, Repr

namespace Command

/-- A command without arguments. -/
def new (program : String) (dir : Path) (limit : Span) : Command :=
  ⟨program, [], dir, limit⟩

/-- The command with more arguments at the end. -/
def addArgs (c : Command) (args : List String) : Command :=
  { c with args := c.args ++ args }

/-- The command with one more argument at the end. -/
def addArg (c : Command) (arg : String) : Command :=
  c.addArgs [arg]

/-- The command as one line: program and arguments, with a space between each two. -/
def display (c : Command) : String :=
  String.intercalate " " (c.program :: c.args)

end Command

/-- What a program that ended leaves behind. There is no exit code if a signal ended it. -/
structure Output where
  exitCode : Option Int
  stdout : String
  stderr : String
deriving DecidableEq, Repr

namespace Output

/-- Whether the program ended with exit code zero. -/
def succeeded (o : Output) : Bool :=
  o.exitCode == some 0

/-- A program succeeded exactly if its exit code is zero. -/
theorem succeeded_iff {o : Output} : o.succeeded = true ↔ o.exitCode = some 0 :=
  beq_iff_eq

/-- Both streams, with a line feed between them. -/
def combined (o : Output) : String :=
  o.stdout ++ "\n" ++ o.stderr

end Output

end LintRoster
