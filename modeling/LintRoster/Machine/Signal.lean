/-!
# Signals

The signals by their numbers: the names that commands use for them, and what is said about a process
that one of them ended.
-/

namespace LintRoster.Machine.Signal

/-- The names of the signals from zero on. The first one stands for the end of a shell. -/
def firstNames : List String :=
  ["EXIT", "HUP", "INT", "QUIT", "ILL", "TRAP", "ABRT", "BUS", "FPE", "KILL", "USR1", "SEGV", "USR2",
    "PIPE", "ALRM", "TERM", "16", "CHLD", "CONT", "STOP", "TSTP", "TTIN", "TTOU", "URG", "XCPU",
    "XFSZ", "VTALRM", "PROF", "WINCH", "IO", "PWR", "SYS", "32", "33", "RTMIN"]

/-- The names of all signals. -/
def names : List String :=
  firstNames ++ (List.range 15).map (fun n => "RTMIN+" ++ toString (n + 1)) ++
    (List.range 14).map (fun n => "RTMAX-" ++ toString (14 - n)) ++ ["RTMAX"]

/-- What the signals from one on are, in words. -/
def firstTexts : List String :=
  ["Hangup", "Interrupt", "Quit", "Illegal instruction", "Trace/breakpoint trap", "Aborted",
    "Bus error", "Floating point exception", "Killed", "User defined signal 1", "Segmentation fault",
    "User defined signal 2", "Broken pipe", "Alarm clock", "Terminated", "Stack fault",
    "Child exited", "Continued", "Stopped (signal)", "Stopped", "Stopped (tty input)",
    "Stopped (tty output)", "Urgent I/O condition", "CPU time limit exceeded",
    "File size limit exceeded", "Virtual timer expired", "Profiling timer expired",
    "Window changed", "I/O possible", "Power failure", "Bad system call"]

/-- The first signal without a meaning of its own. -/
def firstFree : Nat :=
  34

/-- How many signals there are, zero included. -/
def count : Nat :=
  65

/-- The name of a signal. -/
def name? (signal : Nat) : Option String :=
  names[signal]?

/-- What a signal is, in words. -/
def text (signal : Nat) : String :=
  match firstTexts[signal - 1]? with
  | some s => s
  | none =>
    if signal < firstFree then "Unknown signal " ++ toString signal
    else "Real-time signal " ++ toString (signal - firstFree)

/-- The number of the signal with a name, in letters of either case. -/
def ofName? (name : String) : Option Nat :=
  names.findIdx? fun other => other.toLower == name.toLower

/-- The signal that a word means, by its number or its name. Zero has a name only where `zero` is
set. -/
def ofWord? (zero : Bool) (w : String) : Option Nat :=
  match w.toNat? with
  | some n => if n < count && w.toList.all Char.isDigit then some n else none
  | none => (ofName? w).filter fun n => zero || n != 0

end LintRoster.Machine.Signal
