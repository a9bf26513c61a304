import LintRoster.Machine.Tool.Entry

/-!
# Tools on links

Tools that make links, and tell where paths lead.
-/

namespace LintRoster.Machine.Tool

/-- Makes a link. -/
def linkOne (call : Call) (given : Given) (path target : String) : Work Nat := do
  let symbolic := given.has 's'
  let kind := if symbolic then "symbolic link " else "hard link "
  if given.has 'f' then
    discard (Work.change (removeFile (pathOf target)))
  let node : Except FileFault Node ←
    if symbolic then pure (.ok (Node.link (Bytes.toText path)))
    else Work.look (nodeAt (pathOf path))
  match node with
  | .error fault =>
    complain call ("failed to access " ++ Quoted.shell path ++ ": " ++ fault.summary)
    return 1
  | .ok (.dir _) =>
    complain call (Quoted.name path ++ ": hard link not allowed for directory")
    return 1
  | .ok node =>
    match ← Work.change (putNew (pathOf target) node) with
    | .ok () =>
      if given.has 'v' then
        let arrow := if symbolic then " -> " else " => "
        say call (Quoted.shell target ++ arrow ++ Quoted.shell path ++ "\n") 0
      else return 0
    | .error fault =>
      let tail := if symbolic || fault == .exists then "" else " => " ++ Quoted.shell path
      complain call ("failed to create " ++ kind ++ Quoted.shell target ++ tail ++ ": " ++ fault.summary)
      return 1

/-- Makes links. -/
def ln : Tool := fun _ call =>
  withOptions call {
      letters := "sfnvTt:rLPbiF"
      names := [("symbolic", .nothing, 's'), ("force", .nothing, 'f'), ("verbose", .nothing, 'v'),
        ("no-dereference", .nothing, 'n'), ("no-target-directory", .nothing, 'T'),
        ("target-directory", .required, 't'), ("relative", .nothing, 'r')] } 1
    fun given => do
      let target := given.operands.getLast?.getD ""
      let isLink ← Work.look fun fs =>
        match nodeAt (pathOf target) fs with
        | .ok (.link _) => true
        | _ => false
      let given := if given.has 'n' && isLink then { given with options := ('T', "") :: given.options } else given
      withDestinations call given "file " true (linkOne call given)

/-! ## Names of places -/

/-- The absolute path that a path leads to, whose last step may be missing unless `exists` says
otherwise. -/
def canonical (mustExist : Bool) (path : String) (fs : FileSystem) : Except FileFault String :=
  let absolute (place : List String) : String := Bytes.ofText (FileSystem.absolute place).text
  match fs.resolve (pathOf path) with
  | .error fault => .error fault
  | .ok (.node place _) => .ok (absolute place)
  | .ok (.free parent name) => if mustExist then .error .notFound else .ok (absolute (parent ++ [name]))

/-- The absolute path that a path would lead to, if its missing steps were there. -/
def canonicalLoosely (fs : FileSystem) (path : String) : Nat → List String → String
  | 0, _ => path
  | fuel + 1, missing =>
    match canonical false path fs with
    | .ok found => missing.foldl below found
    | .error _ =>
      let cs := (path.toList.reverse.dropWhile (· == '/'))
      let last := (cs.takeWhile (· != '/')).reverse
      let rest := ((cs.dropWhile (· != '/')).dropWhile (· == '/')).reverse
      let dir := if rest.isEmpty then (if path.toList.head? == some '/' then "/" else ".") else String.ofList rest
      canonicalLoosely fs dir fuel (String.ofList last :: missing)

/-- Writes where links lead. -/
def readlink : Tool := fun _ call =>
  withOptions call {
      letters := "femnqsvz"
      names := [("canonicalize", .nothing, 'f'), ("canonicalize-existing", .nothing, 'e'),
        ("canonicalize-missing", .nothing, 'm'), ("no-newline", .nothing, 'n'),
        ("zero", .nothing, 'z'), ("verbose", .nothing, 'v'), ("quiet", .nothing, 'q')] } 1
    fun given =>
      withOperands call given.operands do
        let ending := if given.has 'z' then "\x00" else if given.has 'n' then "" else "\n"
        forEach (fun path => do
          let found ← Work.look fun fs =>
            match given.last? ['f', 'e', 'm'] with
            | some 'm' => Except.ok (canonicalLoosely fs path (path.length + 1) [])
            | some mode => canonical (mode == 'e') path fs
            | none =>
              match nodeAt (pathOf path) fs with
              | .ok (.link target) => .ok (Bytes.ofText target)
              | .ok _ => .error (.described "Invalid argument")
              | .error fault => .error fault
          match found with
          | .ok text => say call (text ++ ending) 0
          | .error fault =>
            if given.has 'v' then complain call (inputComplaint path fault)
            return 1) given.operands

/-- Writes the absolute paths that paths lead to. -/
def realpath : Tool := fun _ call =>
  withOptions call {
      letters := "emLPqsz"
      names := [("canonicalize-existing", .nothing, 'e'), ("canonicalize-missing", .nothing, 'm'),
        ("quiet", .nothing, 'q'), ("no-symlinks", .nothing, 's'), ("strip", .nothing, 's'),
        ("zero", .nothing, 'z')] } 1
    fun given =>
      withOperands call given.operands do
        let ending := if given.has 'z' then "\x00" else "\n"
        forEach (fun path => do
          let found ← Work.look fun fs =>
            if given.has 'm' then Except.ok (canonicalLoosely fs path (path.length + 1) [])
            else canonical (given.has 'e') path fs
          match found with
          | .ok text => say call (text ++ ending) 0
          | .error fault =>
            if !given.has 'q' then
              complain call ((if path == "" then "''" else Quoted.name path) ++ ": " ++ fault.summary)
            return 1) given.operands

end LintRoster.Machine.Tool
