import LintRoster.Machine.Mode
import LintRoster.Machine.Tool.Entry

/-!
# Tools on directories

Tools that make directories, and remove directories, files and trees.
-/

namespace LintRoster.Machine.Tool

/-! ## Directories -/

/-- The paths that lead to a path, step by step, the path itself last. -/
def stepsTo (path : String) : List String :=
  let cs := path.toList
  let ends := (List.range cs.length).filter fun i =>
    i > 0 && cs[i]? == some '/' && cs[i - 1]? != some '/' && (cs.drop i).any (· != '/')
  ends.map (fun i => String.ofList (cs.take i)) ++ [path]

/-- Makes a directory. The answer tells what is to be complained about. -/
def makeOne (call : Call) (verbose : Bool) (path : String) : Work (Option FileFault) := do
  match ← Work.change fun fs => fs.makeDir (pathOf path) with
  | .error fault => return some fault
  | .ok () =>
    if verbose then
      discard (writeTo 1 (call.name ++ ": created directory " ++ Quoted.shell path ++ "\n"))
    return none

/-- Complains about a directory that cannot be made. -/
def notMade (call : Call) (path : String) (fault : FileFault) : Work Nat := do
  complain call ("cannot create directory " ++ Quoted.curved path ++ ": " ++ fault.summary)
  return 1

/-- Makes a directory at the end of some steps, and those above it as far as they are missing. -/
def makeAll (call : Call) (verbose : Bool) : List String → Work Nat
  | [] => return 0
  | [path] => do
    match ← makeOne call verbose path with
    | none => return 0
    | some fault =>
      if fault == .exists && (← isDirectory path) then return 0 else notMade call path fault
  | path :: paths => do
    if ← isDirectory path then makeAll call verbose paths
    else
      match ← makeOne call verbose path with
      | none => makeAll call verbose paths
      | some fault => notMade call path (if fault == .exists then .notDirectory else fault)

/-- Makes directories. -/
def mkdir : Tool := fun _ call =>
  withOptions call {
      letters := "pm:vZ"
      names := [("parents", .nothing, 'p'), ("mode", .required, 'm'), ("verbose", .nothing, 'v')] } 1
    fun given =>
      withOperands call given.operands do
        match given.value? 'm' with
        | some mode =>
          if (Mode.parse? true 0o777 0o777 mode).isNone then
            complain call ("invalid mode " ++ Quoted.curved mode)
            return 1
        | none => pure ()
        forEach (fun path => do
          if given.has 'p' then makeAll call (given.has 'v') (stepsTo path)
          else
            match ← makeOne call (given.has 'v') path with
            | none => return 0
            | some fault => notMade call path fault) given.operands

/-- Removes empty directories at some paths. -/
def removeEach (call : Call) (given : Given) : List String → Work Nat
  | [] => return 0
  | path :: paths => do
    if given.has 'v' then
      discard (writeTo 1 (call.name ++ ": removing directory, " ++ Quoted.shell path ++ "\n"))
    match ← Work.change (removeDirectory (pathOf path)) with
    | .ok () => removeEach call given paths
    | .error fault =>
      if given.has 'i' && fault == .notEmpty then return 0
      let what := if (← isDirectory path) && given.has 'p' then "directory " else ""
      complain call ("failed to remove " ++ what ++ Quoted.shell path ++ ": " ++ fault.summary)
      return 1

/-- Removes empty directories. -/
def rmdir : Tool := fun _ call =>
  withOptions call {
      letters := "pv"
      names := [("parents", .nothing, 'p'), ("verbose", .nothing, 'v'),
        ("ignore-fail-on-non-empty", .nothing, 'i')] } 1
    fun given =>
      withOperands call given.operands do
        forEach (fun path =>
          removeEach call given (if given.has 'p' then (stepsTo path).reverse else [path]))
          given.operands

/-! ## Removing -/

mutual

/-- What is said about a tree that is removed, from its leaves to its root. -/
def removalLines (path : String) : Node → List String
  | .dir d => entryLines path d ++ ["removed directory " ++ Quoted.shell path ++ "\n"]
  | _ => ["removed " ++ Quoted.shell path ++ "\n"]

/-- What is said about the entries of a directory that are removed. -/
def entryLines (path : String) : Directory → List String
  | .empty => []
  | .entry name node rest =>
    removalLines (below path (Bytes.ofText name)) node ++ entryLines path rest

end

/-- Whether the last step of a path is a dot or two. -/
def endsInDots (path : String) : Bool :=
  let last := ((path.splitOn "/").filter (· != "")).getLast?
  last == some "." || last == some ".."

/-- Removes what is at a path. -/
def removeAt (call : Call) (given : Given) (path : String) : Work Nat := do
  let recursive := given.has 'r' || given.has 'R'
  let failed (fault : FileFault) : Work Nat := do
    complain call ("cannot remove " ++ Quoted.shell path ++ ": " ++ fault.summary)
    return 1
  match ← Work.look (nodeAt (pathOf path)) with
  | .error fault =>
    if given.has 'f' && (fault == .notFound || fault == .notDirectory) then return 0
    else failed fault
  | .ok (.dir d) =>
    if !recursive && !given.has 'd' then failed .isDirectory
    else if recursive && endsInDots path then
      complain call ("refusing to remove '.' or '..' directory: skipping " ++ Quoted.shell path)
      return 1
    else if recursive && (path.toList.all (· == '/')) then
      complain call "it is dangerous to operate recursively on '/'"
      complain call "use --no-preserve-root to override this failsafe"
      return 1
    else
      let change (fs : FileSystem) : Except FileFault FileSystem :=
        if recursive then .ok (fs.removeTree (pathOf path)) else removeDirectory (pathOf path) fs
      match ← Work.change change with
      | .error fault => failed fault
      | .ok () =>
        if given.has 'v' then say call (String.join (removalLines path (.dir d))) 0 else return 0
  | .ok node =>
    match ← Work.change (removeFile (pathOf path)) with
    | .error fault => failed fault
    | .ok () => if given.has 'v' then say call (String.join (removalLines path node)) 0 else return 0

/-- Removes files and trees. -/
def rm : Tool := fun _ call =>
  withOptions call {
      letters := "dfirIRv"
      names := [("force", .nothing, 'f'), ("recursive", .nothing, 'r'), ("dir", .nothing, 'd'),
        ("verbose", .nothing, 'v')] } 1
    fun given =>
      if given.operands.isEmpty && given.has 'f' then return 0
      else withOperands call given.operands (forEach (removeAt call given) given.operands)

end LintRoster.Machine.Tool
