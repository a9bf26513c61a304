import LintRoster.FileSystem

/-!
# The regular files below a directory

`FileSystem.listFiles` lists every regular file below a path, in the order of paths. The walk
enters real directories only: a symbolic link below the starting path is neither followed nor
listed, while the starting path itself may be one that leads to a directory. It takes the entries of
a directory in the order of their names, each with all that is below it. A directory whose path
has grown too long cannot be opened, and ends the walk with a fault; all others can.
-/

namespace LintRoster

/-- What belongs to the entries of a directory, each under the name of its entry, in the order of
these names. -/
def Directory.inNameOrder {α : Type} (entries : List (String × α)) : List (String × α) :=
  entries.mergeSort fun a b => a.1 ≤ b.1

mutual

/-- The paths of the regular files at or below a node that stands at `path`, in the order in which
the walk meets them. -/
def Node.filesBelow (path : Path) : Node → List Path
  | .file _ _ => [path]
  | .link _ => []
  | .dir entries => (Directory.inNameOrder (entries.filesBelow path)).flatMap Prod.snd

/-- The names of the entries of a directory that stands at `path`, each with the paths of the
regular files at or below that entry. -/
def Directory.filesBelow (path : Path) : Directory → List (String × List Path)
  | .empty => []
  | .entry name node rest => (name, node.filesBelow (path.child name)) :: rest.filesBelow path

end

mutual

/-- The first directory that the walk meets at or below a node that stands at `path`, and whose own
path is too long for it to be opened. -/
def Node.unopened? (path : Path) : Node → Option Path
  | .file _ _ => none
  | .link _ => none
  | .dir entries =>
    if path.text.utf8ByteSize > FileSystem.pathLimit then some path
    else (Directory.inNameOrder (entries.unopened? path)).findSome? Prod.snd

/-- The names of the entries of a directory that stands at `path`, each with the first directory at
or below that entry whose path is too long for it to be opened. -/
def Directory.unopened? (path : Path) : Directory → List (String × Option Path)
  | .empty => []
  | .entry name node rest => (name, node.unopened? (path.child name)) :: rest.unopened? path

end

namespace FileSystem

/-- The node at which the walk below a path starts. A path that is itself a link is entered if it
leads to a directory. -/
def walkStart? (fs : FileSystem) (dir : Path) : Option Node :=
  match fs.resolveLink dir with
  | .ok (.node _ (.link _)) =>
    match fs.stat dir with
    | .ok (_, .dir entries) => some (.dir entries)
    | _ => none
  | .ok (.node _ node) => some node
  | _ => none

/-- The regular files below a path, in the order in which the walk meets them. -/
def walkFiles (fs : FileSystem) (dir : Path) : List Path :=
  match fs.walkStart? dir with
  | none => []
  | some node => node.filesBelow dir

/-- The regular files below a path, in the order of paths. There are none if the path leads
nowhere. -/
def regularFiles (fs : FileSystem) (dir : Path) : List Path :=
  (fs.walkFiles dir).mergeSort Path.le

/-- The fault of a walk that cannot go on at a path. -/
def walkFault (p : Path) (cause : FileFault) : FileFault :=
  .described ("IO error for operation on " ++ p.text ++ ": " ++ cause.message)

/-- The regular files below a path in the order of paths, or the fault that ends the walk. -/
def listFiles (fs : FileSystem) (dir : Path) : Except FileFault (List Path) :=
  match (fs.walkStart? dir).bind (Node.unopened? dir) with
  | some p => .error (walkFault p .nameTooLong)
  | none => .ok (fs.regularFiles dir)

end FileSystem

end LintRoster
