import LintRoster.FileSystem

/-!
# Placing files

A placement says what shall stand at a path: a file, a directory or a link. The directories above it
are made where they are missing. A placement that is not possible changes nothing else.
-/

namespace LintRoster

/-- What shall stand at a path. -/
inductive Content where
  | file (bytes : List UInt8) (executable : Bool)
  | dir
  | link (target : String)

/-- Something that shall stand at a path. -/
structure Placement where
  path : Path
  content : Content

namespace FileSystem

/-- The file system with the directories above a path. -/
def makeParents (fs : FileSystem) (p : Path) : FileSystem :=
  match p.parent? with
  | none => fs
  | some parent => (fs.makeDirs parent).2

/-- The file system with a file of the given content and permission at a path. -/
def putFile (fs : FileSystem) (p : Path) (bytes : List UInt8) (executable : Bool) : FileSystem :=
  match fs.resolve p with
  | .ok (.node place (.file _ _)) => fs.put place (.file bytes executable)
  | .ok (.free parent name) => fs.put (parent ++ [name]) (.file bytes executable)
  | _ => fs

/-- The file system with a link at a path where nothing stands. -/
def putLink (fs : FileSystem) (p : Path) (target : String) : FileSystem :=
  match fs.resolveLink p with
  | .ok (.free parent name) => fs.put (parent ++ [name]) (.link target)
  | _ => fs

/-- The file system with something placed at a path. -/
def place (fs : FileSystem) (p : Placement) : FileSystem :=
  match p.content with
  | .dir => (fs.makeDirs p.path).2
  | .file bytes executable => (fs.makeParents p.path).putFile p.path bytes executable
  | .link target => (fs.makeParents p.path).putLink p.path target

/-- The file system with several things placed in order. -/
def placeAll (fs : FileSystem) (ps : List Placement) : FileSystem :=
  ps.foldl place fs

end FileSystem

end LintRoster
