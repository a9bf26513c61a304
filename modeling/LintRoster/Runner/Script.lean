import LintRoster.Emulator.Invocation
import LintRoster.FileSystem.Placement
import LintRoster.Runner

/-!
# Scripted runners

A scripted runner answers commands from a list of replies, without carrying anything out. A reply to
a command that names a directory for artifacts may act on that directory first. After the last reply
every command succeeds without output.
-/

namespace LintRoster

/-- The answer to one command, with what happens to the directory for artifacts before it. -/
structure Reply where
  removesDir : Bool
  writes : List Placement
  answer : Except RunFault Output

namespace Script

/-- The directory for artifacts that a command names: the argument after the first flag for it. -/
def artifactDir? : List String → Option Path
  | [] => none
  | arg :: rest => if arg == Emulator.artifactFlag then rest.head?.map Path.mk else artifactDir? rest

/-- The files after a reply acted on a directory. -/
def act (files : FileSystem) (reply : Reply) (dir : Path) : FileSystem :=
  let files := if reply.removesDir then files.removeTree dir else files
  files.placeAll (reply.writes.map fun p => { p with path := dir.join p.path })

/-- The answer after the last reply. -/
def quiet : Output :=
  ⟨some 0, "", ""⟩

/-- The answer to a command, with the replies that are left. -/
def answer (c : Command) (files : FileSystem) :
    List Reply → Except RunFault Output × FileSystem × List Reply
  | [] => (.ok quiet, files, [])
  | reply :: replies =>
    match artifactDir? c.args with
    | none => (reply.answer, files, replies)
    | some dir => (reply.answer, act files reply dir, replies)

/-- The runner that finds the given programs, and remembers the replies that are left. -/
def runner (programs : List String) : Runner (List Reply) where
  locates _ program := programs.contains program
  answer c files replies := answer c files replies

end Script

end LintRoster
