import LintRoster.Machine.Programs
import LintRoster.Machine.Schedule
import LintRoster.Runner

/-!
# A machine

A machine has a shell and a few tools, and runs commands on a file system. Its runner is what the
program uses outside of tests: it starts a program in the directory of the command, waits until it
ends or its time is up, and gives back what it wrote, as text.
-/

namespace LintRoster.Machine

/-! ## What a machine holds -/

/-- A directory with the given entries. -/
def directory (entries : List (String × Node)) : Directory :=
  entries.foldl (fun d entry => d.alter entry.1 fun _ => some entry.2) .empty

/-- The directory with the programs of the machine. The shell has a second name. -/
def programs : Directory :=
  directory (("sh", .link Programs.shell) ::
    Programs.names.map fun name => (name, .file (Image.bytesOf name) true))

/-- The directory with the devices of the machine. -/
def devices : Directory :=
  let stream (entry : String × Nat) : String × Node :=
    (entry.1, .file [] false)
  directory (
    ("fd", .dir .empty) ::
    Device.table.map (fun entry => (entry.1, .file [] false)) ++ Device.streamNames.map stream)

/-- The file tree of a machine that holds nothing but its own files. -/
def root : Directory :=
  directory [
    ("bin", .link "usr/bin"),
    ("dev", .dir devices),
    ("etc", .dir .empty),
    ("root", .dir .empty),
    ("sbin", .link "usr/sbin"),
    ("tmp", .dir .empty),
    ("usr", .dir (directory [
      ("bin", .dir programs),
      ("local", .dir (directory [("bin", .dir .empty), ("sbin", .dir .empty)])),
      ("sbin", .dir .empty)])),
    ("var", .dir (directory [("tmp", .dir .empty)]))]

/-! ## Finding programs -/

/-- The directories in which the programs of an environment are searched. -/
def searchPath (environment : NameMap String) : String :=
  (environment.get? "PATH").getD defaultSearchPath

/-- The directory that belongs to the user of an environment. -/
def home (environment : NameMap String) : Path :=
  ⟨(environment.get? "HOME").getD "/root"⟩

/-- The path that an entry of a search path means: a tilde as its first step is the directory of the
user. -/
def expandHome (environment : NameMap String) (entry : Path) : Path :=
  match entry.components with
  | .name "~" :: steps => steps.foldl (fun p step => p.child step.text) (home environment)
  | _ => entry

/-- The path of a program that is named by several steps. A relative one loses its slashes at the
end and its dots. -/
def namedPath (program : Path) : Path :=
  if program.isAbsolute then program
  else Path.ofComponents (program.components.filter (· != .current))

/-- The paths at which a program is looked for. A name of a single step is searched in the
directories of the search path. -/
def candidates (environment : NameMap String) (program : Path) : List Path :=
  if program.components.length > 1 then [namedPath program]
  else
    (searchDirs (searchPath environment)).map fun dir =>
      (expandHome environment dir).join program

/-- Whether a program can be found. It may be found by a path by which it cannot be started. -/
def locates (environment : NameMap String) (files : FileSystem) (program : String) : Bool :=
  (candidates environment ⟨program⟩).any files.isExecutable

/-! ## Running commands -/

/-- The variables that a program sees. Those that every program sees are added if they are missing. -/
def variablesFor (environment : NameMap String) : Environment :=
  let usual : Environment := [("PATH", searchPath environment), ("HOME", (home environment).text)]
  let given := environment.toList
  let all := usual.filter (fun v => (given.lookup v.1).isNone) ++ given
  all.map fun v => (Bytes.ofText v.1, Bytes.ofText v.2)

/-- How long it takes to start a program, in nanoseconds. -/
def startCost : Nat :=
  1000000

/-- The process that a command starts as. It has no input, and two sinks for its output. -/
def firstProcess (task : Task) (cwd : List String) : Process where
  id := Kernel.firstId
  parent := Kernel.firstId - 1
  task := task
  clock := startCost
  streams := [⟨0, 0, true⟩, ⟨1, 1, true⟩, ⟨2, 2, true⟩]
  cwd := cwd
  mask := 0o022
  dispositions := []
  caught := []
  ending := none
  stopped := false

/-- The machine on which a single process starts. -/
def kernelFor (task : Task) (files : FileSystem) : Kernel where
  root := files.root
  resources := #[.nothing, .sink 0, .sink 1]
  pipes := #[]
  sinks := #[[], []]
  processes := [firstProcess task files.cwd]
  nextId := Kernel.firstId + 1
  now := startCost

/-- What was written to a sink, as text. -/
def sinkText (n : Nat) (k : Kernel) : String :=
  Utf8.decodeLossy ((k.sinks[n]?.getD []).reverse.flatten)

/-- The status that the first process ended with. -/
def exitCode (k : Kernel) : Option Int :=
  match (k.process? Kernel.firstId).bind Process.ending with
  | some (.exited status) => some status
  | _ => none

/-- What a command led to. -/
def reply (k : Kernel) : Except RunFault Output :=
  if k.isOver then .ok ⟨exitCode k, sinkText 0 k, sinkText 1 k⟩ else .error .timeout

/-- Whether a command can be handed to a machine: none of its texts may hold a null character. -/
def isProper (c : Command) : Bool :=
  (c.program :: c.dir.text :: c.args).all fun text => !text.toList.contains '\x00'

/-- The path of the program of a command, if it can be started. -/
def startable (environment : NameMap String) (c : Command) (files : FileSystem) :
    Except FileFault String := do
  let path := Bytes.ofText (← locate files (searchPath environment) c.program).text
  discard (Image.load files path [path])
  return path

/-- Starts a command in the present directory, and runs it until it ends or its time is up. -/
def start (environment : NameMap String) (c : Command) (files : FileSystem) :
    Except RunFault Output × FileSystem :=
  match startable environment c files with
  | .error fault => (.error (.launch fault), files)
  | .ok path =>
    let arguments := (c.program :: c.args).map Bytes.ofText
    let work : Work Nat := do
      discard (Programs.exec path arguments (variablesFor environment))
      return 127
    let k := (kernelFor work.toTask files).run c.limit.totalNanos Work.rounds
    (reply k, { files with root := k.root })

/-- Runs a command in its directory. -/
def run (environment : NameMap String) (c : Command) (files : FileSystem) :
    Except RunFault Output × FileSystem :=
  if !isProper c then (.error (.launch .nulInCommand), files)
  else
    match files.changeDir c.dir with
    | .error fault => (.error (.launch fault), files)
    | .ok inside =>
      let (reply, after) := start environment c inside
      (reply, { after with cwd := files.cwd })

/-- The runner that carries out commands on a machine. -/
def runner (environment : NameMap String) : Runner Unit where
  locates := locates environment
  answer c files _ :=
    let (reply, files) := run environment c files
    (reply, files, ())

end LintRoster.Machine
