import LintRoster.Shell.Builtin
import LintRoster.Shell.Condition
import LintRoster.Shell.Output

/-!
# Commands on texts

The commands that write their arguments, decide conditions about them, or do nothing with them.
-/

namespace LintRoster.Shell.Builtin

/-- Writes its arguments. -/
def echo : Builtin := fun args => do
  Sh.say (Output.echo args)
  return 0

/-- Writes its arguments in a format. -/
def printf : Builtin := fun args => do
  match ← operands args with
  | [] => Sh.fault "usage: printf format [arg ...]"
  | format :: args =>
    let w := Output.printf format args
    w.complaints.forM Sh.report
    Sh.say (String.ofList w.text.reverse)
    match w.fault with
    | some message => Sh.fault message
    | none => return if w.complaints.isEmpty then 0 else 1

/-- Decides a condition. -/
def test : Builtin := fun args => do
  let name := (← get).command.getD "test"
  match ← Sh.look fun fs => Condition.evaluate fs name args with
  | .ok holds => return if holds then 0 else 1
  | .error complaint => Sh.fault complaint

/-- Succeeds. -/
def succeed : Builtin := fun _ => return 0

/-- Fails. -/
def fail : Builtin := fun _ => return 1

end LintRoster.Shell.Builtin
