import LintRoster.Machine.Tool.Input

/-!
# Entries of directories

What tools do to single entries of directories, as functions on file systems, and where a tool puts
what it is given.
-/

namespace LintRoster.Machine.Tool

/-! ## Changes of single entries -/

/-- The files without a file or a link. -/
def removeFile (p : Path) (fs : FileSystem) : Except FileFault FileSystem :=
  match fs.resolveLink p with
  | .error fault => .error fault
  | .ok (.free _ _) => .error .notFound
  | .ok (.node _ (.dir _)) => .error .isDirectory
  | .ok (.node place _) => .ok (fs.erase place)

/-- The files without an empty directory. -/
def removeDirectory (p : Path) (fs : FileSystem) : Except FileFault FileSystem :=
  if p.components.getLast? == some .current then .error (.described "Invalid argument")
  else
    match fs.resolveLink p with
    | .error fault => .error fault
    | .ok (.free _ _) => .error .notFound
    | .ok (.node place (.dir .empty)) => .ok (fs.erase place)
    | .ok (.node _ (.dir _)) => .error .notEmpty
    | .ok (.node _ _) => .error .notDirectory

/-- The files with a new entry. -/
def putNew (p : Path) (node : Node) (fs : FileSystem) : Except FileFault FileSystem :=
  match fs.resolveLink p with
  | .error fault => .error fault
  | .ok (.node _ _) => .error .exists
  | .ok (.free parent name) =>
    if p.text.toList.getLast? == some '/' && !node.isDir then .error .notFound
    else .ok (fs.put (parent ++ [name]) node)

/-- The node at a path, where a link at its end is not followed. -/
def nodeAt (p : Path) (fs : FileSystem) : Except FileFault Node :=
  match fs.resolveLink p with
  | .error fault => .error fault
  | .ok (.free _ _) => .error .notFound
  | .ok (.node _ node) => .ok node

/-- Whether a path leads to a directory. -/
def isDirectory (path : String) : Work Bool :=
  Work.look fun fs => fs.isDir (pathOf path)

/-- A name below a directory, both as they were written. -/
def below (dir name : String) : String :=
  if dir.toList.getLast? == some '/' then dir ++ name else dir ++ "/" ++ name

/-! ## Destinations -/

/-- Where something is put, if the last of some operands may be a directory: the paths with their
targets. -/
inductive Destinations where
  | pairs (ps : List (String × String))
  | missing (complaint : String)
  | lacking (what target : String) (fault : FileFault)

/-- The last step of a path, without slashes behind it. -/
def finalStep (path : String) : String :=
  ((path.splitOn "/").filter (· != "")).getLast?.getD "/"

/-- Where operands are put. -/
def destinations (given : Given) (missing : String) (alone : Bool) : Work Destinations := do
  let into (dir : String) (paths : List String) : Destinations :=
    .pairs (paths.map fun p => (p, below dir (finalStep p)))
  match given.value? 't', given.operands.reverse with
  | some _, [] => return .missing ("missing " ++ missing ++ "operand")
  | some dir, _ =>
    if ← isDirectory dir then return into dir given.operands
    else
      let fault ← Work.look fun fs => fs.dirPlace (pathOf dir)
      return .lacking "target directory " dir (match fault with | .error e => e | .ok _ => .notDirectory)
  | none, [] => return .missing ("missing " ++ missing ++ "operand")
  | none, [path] =>
    if alone then return into "." [path]
    else return .missing ("missing destination file operand after " ++ Quoted.shell path)
  | none, target :: paths =>
    let paths := paths.reverse
    let isDir ← isDirectory target
    if isDir && !given.has 'T' then return into target paths
    else
      match paths with
      | [path] => return .pairs [(path, target)]
      | _ =>
        let fault ← Work.look fun fs => fs.dirPlace (pathOf target)
        return .lacking "target " target (match fault with | .error e => e | .ok _ => .notDirectory)

/-- Does something with each pair of a path and its target. -/
def withDestinations (call : Call) (given : Given) (missing : String) (alone : Bool)
    (act : String → String → Work Nat) : Work Nat := do
  match ← destinations given missing alone with
  | .missing complaint => misused call 1 complaint
  | .lacking what target fault =>
    complain call (what ++ Quoted.shell target ++ ": " ++ fault.summary)
    return 1
  | .pairs ps => forEach (fun p => act p.1 p.2) ps

end LintRoster.Machine.Tool
