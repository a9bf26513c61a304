/-!
# File trees

A file tree is a finite tree of regular files, symbolic links and directories. A directory keeps
its entries in the order of their names, and a new entry goes to its place in that order, so two
trees with the same content are equal.

Two things are left out. Permissions are, apart from whether a file can be executed: every file can
be read and written, and every directory can be read, entered and changed. And so are names and
targets of links whose bytes are not UTF-8: they are texts.
-/

namespace LintRoster

mutual

/-- What a name in a directory stands for. -/
inductive Node where
  | file (bytes : List UInt8) (executable : Bool)
  | link (target : String)
  | dir (entries : Directory)

/-- The entries of a directory, in the order of their names. -/
inductive Directory where
  | empty
  | entry (name : String) (node : Node) (rest : Directory)

end

instance : Inhabited Directory := ⟨.empty⟩

instance : Inhabited Node := ⟨.dir .empty⟩

namespace Node

/-- Whether the node is a directory. -/
def isDir : Node → Bool
  | .dir _ => true
  | _ => false

/-- Whether the node is a regular file. -/
def isFile : Node → Bool
  | .file _ _ => true
  | _ => false

end Node

namespace Directory

/-- The entries as pairs of a name and what it stands for. -/
def toList : Directory → List (String × Node)
  | .empty => []
  | .entry name node rest => (name, node) :: rest.toList

/-- The names in a directory. -/
def names (d : Directory) : List String :=
  d.toList.map Prod.fst

/-- What `name` stands for. -/
def get? (name : String) : Directory → Option Node
  | .empty => none
  | .entry other node rest => if other = name then some node else rest.get? name

/-- Changes what `name` stands for by `f`, which sees the old meaning and gives the new one. A new
name goes to its place in the order, and one that is there is changed wherever it stands. -/
def alter (name : String) (f : Option Node → Option Node) : Directory → Directory
  | .empty =>
    match f none with
    | none => .empty
    | some node => .entry name node .empty
  | .entry other node rest =>
    if other = name then
      match f (some node) with
      | none => rest
      | some node' => .entry other node' rest
    else if name < other && (rest.get? name).isNone then
      match f none with
      | none => .entry other node rest
      | some node' => .entry name node' (.entry other node rest)
    else .entry other node (rest.alter name f)

/-- The node that the names lead to, one directory at a time. No names lead to the directory
itself. -/
def find? : List String → Directory → Option Node
  | [], d => some (.dir d)
  | name :: names, d =>
    match d.get? name with
    | none => none
    | some (.dir sub) => sub.find? names
    | some node => if names.isEmpty then some node else none

/-- Changes by `f` what the last of the names stands for, in the directory that the others lead
to. Nothing happens where they lead to no directory. -/
def alterAt : List String → (Option Node → Option Node) → Directory → Directory
  | [], _, d => d
  | [name], f, d => d.alter name f
  | name :: names, f, d =>
    d.alter name fun
      | some (.dir sub) => some (.dir (sub.alterAt names f))
      | other => other

end Directory

end LintRoster
