import LintRoster.FileSystem
import LintRoster.Text.Bytes

/-!
# Finding and loading programs

A program is found by its path, or by its name in the directories of a search path. What a found
file runs as is its image: a program of the machine, or a script with an interpreter. Names and
arguments are byte texts.
-/

namespace LintRoster.Machine

/-- The directories in which programs are searched by default. -/
def defaultSearchPath : String :=
  "/usr/local/sbin:/usr/local/bin:/usr/sbin:/usr/bin:/sbin:/bin"

/-- The directories of a search path. An empty entry is the current directory. -/
def searchDirs (searchPath : String) : List Path :=
  (searchPath.splitOn ":").map fun dir => ⟨if dir == "" then "." else dir⟩

/-- Whether a program is named by a path. -/
def isPathName (program : String) : Bool :=
  program.toList.contains '/'

/-- The fault that keeps a path from being run as a program, if there is one. -/
def runFault? (files : FileSystem) (path : Path) : Option FileFault :=
  match files.stat path with
  | .error fault => some fault
  | .ok (_, .file _ true) => none
  | .ok _ => some .permissionDenied

/-- The first of some paths that can be run. A path that may not be run is remembered as the fault
in the end. -/
def firstRunnable (files : FileSystem) (fault : FileFault) : List Path → Except FileFault Path
  | [] => .error fault
  | path :: paths =>
    match runFault? files path with
    | none => .ok path
    | some .permissionDenied => firstRunnable files .permissionDenied paths
    | some _ => firstRunnable files fault paths

/-- The path of a program. -/
def locate (files : FileSystem) (searchPath program : String) : Except FileFault Path :=
  if program == "" then .error .notFound
  else if isPathName program then
    match runFault? files ⟨program⟩ with
    | none => .ok ⟨program⟩
    | some fault => .error fault
  else
    firstRunnable files .notFound ((searchDirs searchPath).map fun dir => dir.child program)

/-- What a file runs as. -/
inductive Image where
  /-- A program of the machine. -/
  | program (name : String)
  /-- A script, with the interpreter that its first line names and an argument for it. -/
  | script (interpreter : String) (argument : Option String)
  /-- A file that names no interpreter. -/
  | unmarked
deriving DecidableEq, Repr

namespace Image

/-- What the files of programs begin with. -/
def mark : List UInt8 :=
  [0x7f, 0x45, 0x4c, 0x46]

/-- The bytes of the file of a program. -/
def bytesOf (name : String) : List UInt8 :=
  mark ++ Bytes.toBytes name

/-- How much of a file is looked at. -/
def reach : Nat :=
  256

/-- The interpreter in the first line of a script, and the argument after it. -/
def ofLine (line : List Char) : Image :=
  let isBlank (c : Char) : Bool := c == ' ' || c == '\t'
  let line := line.dropWhile isBlank
  let name := line.takeWhile fun c => !isBlank c
  let rest := (line.dropWhile fun c => !isBlank c).dropWhile isBlank
  let argument := (rest.reverse.dropWhile isBlank).reverse
  if name.isEmpty then unmarked
  else
    script (String.ofList name) (if argument.isEmpty then none else some (String.ofList argument))

/-- The image of a file with some bytes. -/
def ofBytes (bytes : List UInt8) : Image :=
  if mark.isPrefixOf bytes then program (Bytes.ofBytes (bytes.drop mark.length))
  else
    match ((bytes.take reach).takeWhile (· != 10)).map Bytes.charOf with
    | '#' :: '!' :: line => ofLine line
    | _ => unmarked

/-- How many interpreters may stand behind one another. -/
def depth : Nat :=
  5

/-- What runs in the end, with its arguments, when a path is started with arguments of which the first
is the name that it is called by. -/
def loadFrom (files : FileSystem) :
    Nat → String → List String → Except FileFault (String × List String)
  | 0, _, _ => .error .tooManyLinks
  | fuel + 1, path, arguments =>
    match files.stat ⟨Bytes.toText path⟩ with
    | .error fault => .error fault
    | .ok (_, .file bytes true) =>
      match ofBytes bytes with
      | program name => .ok (name, arguments)
      | unmarked => .error .notRunnable
      | script interpreter argument =>
        loadFrom files fuel interpreter
          (interpreter :: argument.toList ++ path :: arguments.drop 1)
    | .ok _ => .error .permissionDenied

/-- What runs in the end, with its arguments. -/
def load (files : FileSystem) (path : String) (arguments : List String) :
    Except FileFault (String × List String) :=
  loadFrom files depth path arguments

end Image

end LintRoster.Machine
