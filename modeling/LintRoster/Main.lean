import LintRoster.FileSystem.Listing
import LintRoster.Machine
import LintRoster.Program

/-!
# The program on a disk

Reads the current directory into a file tree, lets `Program.run` act on it with the runner of a bare
machine, writes the files that are new or changed back, and prints the ending.
-/

namespace LintRoster.Disk

/-- The usage of the program. -/
def usageText : String :=
  Program.lines [
    "Usage: workflow-contract [--workspace DIR] [--config FILE] COMMAND",
    "",
    "Commands:",
    "  list      Print the declared lint crates",
    "  contract  Check that every declared lint crate is a workspace package",
    "  smoke     Run the lint build job under act",
    "            [--opportunistic] [--artifact-dir DIR]",
    "  check     Run the contract check, then the smoke check",
    "            [--opportunistic]"]

/-- How deep directories are read. -/
def depthLimit : Nat := 32

/-- Whether bytes begin with the mark of a script, which makes a file one that can be executed. -/
def isScript (bytes : List UInt8) : Bool :=
  "#!".toUTF8.toList.isPrefixOf bytes

/-- Reads what an entry of a directory stands for. A link is read as the file that it leads to. -/
def readNode : Nat → IO.FS.DirEntry → IO (Option Node)
  | 0, _ => return none
  | depth + 1, entry => do
    match (← entry.path.symlinkMetadata).type with
    | .dir =>
      let mut entries := Directory.empty
      for item in ← entry.path.readDir do
        if let some node ← readNode depth item then
          entries := entries.alter item.fileName fun _ => some node
      return some (.dir entries)
    | .file | .symlink =>
      try
        let bytes := (← IO.FS.readBinFile entry.path).toList
        return some (.file bytes (isScript bytes))
      catch _ => return none
    | .other => return none

/-- Reads the current directory, which becomes the one of a bare machine. -/
def readFiles : IO FileSystem := do
  let here ← IO.currentDir
  let mut files : FileSystem := (FileSystem.makeDirs ⟨Machine.root, []⟩ ⟨here.toString⟩).2
  if let .ok inside := files.changeDir ⟨here.toString⟩ then
    files := inside
  for item in ← here.readDir do
    if let some node ← readNode depthLimit item then
      files := files.put (files.cwd ++ [item.fileName]) node
  return files

/-- Writes the files of the current directory that differ from those before. -/
def writeFiles (before after : FileSystem) : IO Unit := do
  for path in after.regularFiles ⟨"."⟩ do
    let bytes := (after.readBytes path).toOption.getD []
    if (before.readBytes path).toOption != some bytes then
      if let some parent := path.parent? then IO.FS.createDirAll parent.text
      IO.FS.writeBinFile path.text ⟨bytes.toArray⟩

/-- The variables of the environment that an errand makes the program look at. -/
def readVariables (q : Errand) (files : FileSystem) : IO (NameMap String) := do
  let optIn :=
    match Program.loadSettings q files with
    | .ok s => [s.emulator.optInVariable]
    | .error _ => []
  let mut found : NameMap String := .empty
  for name in "TMPDIR" :: optIn do
    if let some value ← IO.getEnv name then
      found := found.insert name value
  return found

/-- A drawn name of hexadecimal digits. -/
def drawName (digits : Nat) : IO String := do
  let n ← IO.rand 0 (Nat.pow 16 digits - 1)
  let text := Nat.toDigits 16 n
  return String.ofList (List.replicate (digits - text.length) '0' ++ text)

/-- Does what an errand asks for, and gives the exit code. -/
def runErrand (q : Errand) : IO UInt32 := do
  let before ← readFiles
  let found ← readVariables q before
  let env : Surroundings := ⟨found, ← drawName 8, ← drawName 6⟩
  let files := (before.makeDirs ((Program.temporaryRoot env before).parent?.getD ⟨"/tmp"⟩)).2
  let (ending, world) := Program.run (Machine.runner found) env q (.new files ())
  writeFiles before world.files
  (← IO.getStdout).putStr ending.stdout
  (← IO.getStderr).putStr ending.stderr
  return ending.exitCode.toUInt32

/-- Does what arguments ask for, and gives the exit code. -/
def runArguments (args : List String) : IO UInt32 := do
  match CommandLine.read args with
  | .error .usage =>
    (← IO.getStderr).putStr usageText
    return 2
  | .error .help =>
    (← IO.getStdout).putStr usageText
    return 0
  | .error .version =>
    (← IO.getStdout).putStr Program.versionText
    return 0
  | .ok q => runErrand q

end LintRoster.Disk

/-- Does what the arguments ask for. -/
def main (args : List String) : IO UInt32 :=
  LintRoster.Disk.runArguments args
