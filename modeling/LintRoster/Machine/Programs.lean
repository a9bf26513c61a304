import LintRoster.Machine.Tool.Awk
import LintRoster.Machine.Tool.Batches
import LintRoster.Machine.Tool.Blocks
import LintRoster.Machine.Tool.Columns
import LintRoster.Machine.Tool.Comparing
import LintRoster.Machine.Tool.Copying
import LintRoster.Machine.Tool.Digests
import LintRoster.Machine.Tool.Directories
import LintRoster.Machine.Tool.Dumping
import LintRoster.Machine.Tool.Expression
import LintRoster.Machine.Tool.Facts
import LintRoster.Machine.Tool.Files
import LintRoster.Machine.Tool.Grep
import LintRoster.Machine.Tool.Letters
import LintRoster.Machine.Tool.Links
import LintRoster.Machine.Tool.Listing
import LintRoster.Machine.Tool.Search
import LintRoster.Machine.Tool.Sed
import LintRoster.Machine.Tool.Sorting
import LintRoster.Shell.Start

/-!
# The programs of a machine

A machine has a shell and tools. `Programs.exec` goes on as the program that a path leads to, with the
streams and the directory of whoever asks for that.
-/

namespace LintRoster.Machine.Programs

/-- The tools that work on their arguments. -/
def wordTools : List (String × Tool) :=
  [("[", Tool.test), ("arch", Tool.arch), ("basename", Tool.basename), ("date", Tool.date),
   ("dirname", Tool.dirname), ("echo", Tool.echo), ("expr", Tool.expr), ("false", Tool.fail),
   ("id", Tool.id), ("printenv", Tool.printenv), ("printf", Tool.printf), ("pwd", Tool.pwd),
   ("seq", Tool.seq), ("sleep", Tool.sleep), ("test", Tool.test), ("true", Tool.succeed),
   ("tty", Tool.tty), ("uname", Tool.uname), ("which", Tool.which), ("whoami", Tool.whoami),
   ("yes", Tool.yes)]

/-- The tools that work on files. -/
def fileTools : List (String × Tool) :=
  [("base64", Tool.base64), ("cat", Tool.cat), ("chmod", Tool.chmod), ("cmp", Tool.cmp),
   ("cp", Tool.cp), ("dd", Tool.dd), ("ln", Tool.ln), ("ls", Tool.ls), ("md5sum", Tool.md5sum),
   ("mkdir", Tool.mkdir), ("mktemp", Tool.mktemp), ("mv", Tool.mv), ("od", Tool.od),
   ("readlink", Tool.readlink), ("realpath", Tool.realpath), ("rm", Tool.rm),
   ("rmdir", Tool.rmdir), ("sha1sum", Tool.sha1sum), ("sha256sum", Tool.sha256sum),
   ("tee", Tool.tee), ("touch", Tool.touch), ("truncate", Tool.truncate)]

/-- The tools that work on lines. -/
def lineTools : List (String × Tool) :=
  [("awk", Tool.awk), ("comm", Tool.comm), ("cut", Tool.cut), ("diff", Tool.diff), ("egrep", Tool.egrep),
   ("fgrep", Tool.fgrep), ("fold", Tool.fold), ("grep", Tool.grep), ("head", Tool.head), ("mawk", Tool.awk),
   ("nl", Tool.nl), ("paste", Tool.paste), ("rev", Tool.rev), ("sed", Tool.sed),
   ("sort", Tool.sort), ("tac", Tool.tac), ("tail", Tool.tail), ("tr", Tool.tr),
   ("uniq", Tool.uniq), ("wc", Tool.wc)]

/-- The tools that start programs. -/
def startingTools : List (String × Tool) :=
  [("env", Tool.env), ("nice", Tool.nice), ("nohup", Tool.nohup), ("setsid", Tool.setsid),
   ("timeout", Tool.timeout), ("xargs", Tool.xargs), ("find", Tool.find)]

/-- The tools with their names. -/
def tools : List (String × Tool) :=
  wordTools ++ fileTools ++ lineTools ++ startingTools

/-- The name of the shell. -/
def shell : String :=
  "dash"

/-- The program with a name. -/
def find? (name : String) : Option Tool :=
  if name == shell then some Shell.Start.run else tools.lookup name

/-- The names of all programs. -/
def names : List String :=
  shell :: tools.map Prod.fst

/-- Goes on as the program at a path, within which no more than a number of others follow one
another. -/
def execFrom : Nat → Exec
  | 0 => fun _ _ _ => return .notRunnable
  | fuel + 1 => fun path arguments environment => do
    match ← Work.look fun files => Image.load files path arguments with
    | .error fault => return fault
    | .ok (name, arguments) =>
      match find? name with
      | none => return .notRunnable
      | some program =>
        Work.ask .renew
        let call : Call := ⟨arguments.headD "", arguments.drop 1, environment⟩
        Work.exit (← program (execFrom fuel) call)

/-- Goes on as the program at a path. -/
def exec : Exec :=
  execFrom Work.rounds

end LintRoster.Machine.Programs
