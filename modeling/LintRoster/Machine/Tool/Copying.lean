import LintRoster.Machine.Tool.Entry

/-!
# Tools that copy

Tools that write files to the output, to other files, or give them other names.
-/

namespace LintRoster.Machine.Tool

/-! ## Copying to the output -/

/-- Copies a stream to the output, portion by portion. -/
def copyStream (call : Call) (stream : Nat) : Nat → Work (Except FileFault Nat)
  | 0 => return .ok 1
  | fuel + 1 => do
    match ← Work.ask (.read stream Work.portion) with
    | .error fault => return .error fault
    | .ok [] => return .ok 0
    | .ok bytes =>
      let status ← put call bytes 0
      if status == 0 then copyStream call stream fuel else return .ok status

/-- Whether a stream is connected to the same file as the output, with something to be read. -/
def isOwnOutput (stream : Nat) : Work Bool := do
  match ← Work.ask (.place stream), ← Work.ask (.place 1) with
  | some place, some target =>
    if place != target then return false
    let bytes ← Work.look fun fs => fs.readBytes (FileSystem.absolute place)
    return !(bytes.toOption.getD []).isEmpty
  | _, _ => return false

/-- Copies an input to the output. -/
def copyInput (call : Call) (name : String) : Work Nat := do
  match ← openInput name with
  | .error fault =>
    complain call (inputComplaint name fault)
    return 1
  | .ok stream =>
    let status ←
      if ← isOwnOutput stream then
        complain call (Quoted.name name ++ ": input file is output file")
        pure 1
      else
        match ← copyStream call stream Work.rounds with
        | .ok status => pure status
        | .error fault =>
          complain call (inputComplaint name fault)
          pure 1
    closeInput stream
    return status

/-- A byte as it is shown: control characters after a caret, high bytes after a mark. -/
def shownByte (tabs : Bool) (b : UInt8) : List UInt8 :=
  let low (b : UInt8) : List UInt8 :=
    if b < 0x20 then [94, b + 64] else if b == 0x7f then [94, 63] else [b]
  if b == 10 || (b == 9 && !tabs) then [b]
  else if b < 0x80 then low b
  else [77, 45] ++ low (b - 0x80)

/-- A byte as options of a tool ask for it. -/
def catByte (shows tabs : Bool) (b : UInt8) : List UInt8 :=
  if b == 9 && tabs then [94, 73]
  else if shows then shownByte tabs b
  else [b]

/-- What is known between the lines that are written: how many were numbered, whether the last one was
blank, and whether it had an end. -/
structure CatState where
  count : Nat
  wasBlank : Bool
  atStart : Bool

/-- A number at the beginning of a line. -/
def lineNumber (n : Nat) : List UInt8 :=
  let text := toString n
  Bytes.toBytes (String.ofList (List.replicate (6 - text.length) ' ') ++ text ++ "\t")

/-- What is written for a line. -/
def catLine (given : Given) (s : CatState) (line : List UInt8) : Reaction CatState :=
  let shows := given.options.any fun o => ['v', 'A', 'e', 't'].contains o.1
  let ends := given.options.any fun o => ['E', 'A', 'e'].contains o.1
  let tabs := given.options.any fun o => ['T', 'A', 't'].contains o.1
  let isBlank := line == [10] && s.atStart
  if isBlank && s.wasBlank && given.has 's' then ⟨[], s, false⟩
  else
    let numbers := s.atStart && if given.has 'b' then !isBlank else given.has 'n'
    let count := if numbers then s.count + 1 else s.count
    let front := if numbers then lineNumber count else []
    let body := (chomp line).flatMap (catByte shows tabs)
    let isEnded := line.getLast? == some 10
    let tail := if isEnded then (if ends then [36, 10] else [10]) else []
    ⟨front ++ body ++ tail, ⟨count, isBlank, isEnded⟩, false⟩

/-- Copies inputs to the output. -/
def cat : Tool := fun _ call =>
  withOptions call {
      letters := "benstuvAET"
      names := [("number-nonblank", .nothing, 'b'), ("number", .nothing, 'n'),
        ("squeeze-blank", .nothing, 's'), ("show-nonprinting", .nothing, 'v'),
        ("show-ends", .nothing, 'E'), ("show-tabs", .nothing, 'T'), ("show-all", .nothing, 'A')] } 1
    fun given => do
      if given.options.all fun o => o.1 == 'u' then
        forEach (copyInput call) (inputs given.operands)
      else
        let r ← overLines call inputComplaint (catLine given) (inputs given.operands)
          ⟨0, false, true⟩ 0
        return r.status

/-- Copies the input to streams, and gives those that are left. -/
def copyToAll (call : Call) : Nat → List (String × Nat) → Nat → Work Nat
  | 0, _, status => return status
  | fuel + 1, targets, status => do
    match ← Work.ask (.read 0 Work.portion) with
    | .error _ | .ok [] => return status
    | .ok bytes =>
      let (targets, status) ← spread bytes targets status
      copyToAll call fuel targets status
where
  /-- Writes bytes to streams. Those that do not take them are left out. -/
  spread (bytes : List UInt8) : List (String × Nat) → Nat → Work (List (String × Nat) × Nat)
    | [], status => return ([], status)
    | (name, stream) :: targets, status => do
      match ← Work.ask (.write stream bytes) with
      | .ok () =>
        let (targets, status) ← spread bytes targets status
        return ((name, stream) :: targets, status)
      | .error fault =>
        complain call (inputComplaint name fault)
        spread bytes targets 1

/-- Opens the files that the input is copied to. -/
def openAll (call : Call) (access : Access) : List String → Work (List (String × Nat) × Nat)
  | [] => return ([], 0)
  | name :: names => do
    match ← Work.ask (.open (pathOf name) access) with
    | .ok stream =>
      let (streams, status) ← openAll call access names
      return ((name, stream) :: streams, status)
    | .error fault =>
      complain call (inputComplaint name fault)
      let (streams, status) ← openAll call access names
      return (streams, max status 1)

/-- Copies its input to its output and to files. -/
def tee : Tool := fun _ call =>
  withOptions call {
      letters := "aip"
      names := [("append", .nothing, 'a'), ("ignore-interrupts", .nothing, 'i')] } 1
    fun given => do
      let access : Access := if given.has 'a' then .append else .write
      let (streams, status) ← openAll call access given.operands
      copyToAll call Work.rounds (("standard output", 1) :: streams) status

/-! ## Copying to other places -/

/-- Whether a place is at or below another one. -/
def isWithin (place other : List String) : Bool :=
  other.isPrefixOf place

/-- The place that a path leads to, or would lead to. -/
def targetPlace? (fs : FileSystem) (follow : Bool) (path : String) : Option (List String) :=
  match fs.resolveWith follow (pathOf path) with
  | .ok (.node place _) => some place
  | .ok (.free parent name) => some (parent ++ [name])
  | .error _ => none

/-- What came of copying: the files after it, what was written about it, last line first, and what is
to be complained about, last first. -/
structure Copied where
  files : FileSystem
  said : List String
  complaints : List String

namespace Copied

/-- Adds a complaint. -/
def complain (message : String) (c : Copied) : Copied :=
  { c with complaints := message :: c.complaints }

/-- Notes that something was copied. -/
def note (path target : String) (c : Copied) : Copied :=
  { c with said := (Quoted.shell path ++ " -> " ++ Quoted.shell target ++ "\n") :: c.said }

end Copied

/-- How things are copied. -/
structure Copying where
  recursive : Bool
  /-- Whether links are copied as links. -/
  keepsLinks : Bool
  /-- Whether what is there stays. -/
  keepsOld : Bool

/-- A fault in making something at a path. -/
def madeFault (path : String) : FileFault → FileFault
  | .isDirectory => if path.toList.getLast? == some '/' then .notDirectory else .isDirectory
  | fault => fault

/-- Copies a file. -/
def copyFile (path target : String) (bytes : List UInt8) (executable : Bool) (c : Copied) : Copied :=
  match c.files.writeBytes (pathOf target) bytes executable with
  | .ok files => { c with files }.note path target
  | .error fault =>
    c.complain ("cannot create regular file " ++ Quoted.shell target ++ ": " ++
      (madeFault target fault).summary)

/-- Copies a link as a link. -/
def copyLink (path target link : String) (c : Copied) : Copied :=
  let files := (removeFile (pathOf target) c.files).toOption.getD c.files
  match putNew (pathOf target) (.link link) files with
  | .ok files => { c with files }.note path target
  | .error fault =>
    c.complain ("cannot create symbolic link " ++ Quoted.shell target ++ ": " ++ fault.summary)

mutual

/-- Copies a node, which is at a path, to another path. -/
def copyNode (how : Copying) (path target : String) : Node → Copied → Copied
  | .file bytes executable, c =>
    if c.files.isDir (pathOf target) then
      c.complain ("cannot overwrite directory " ++ Quoted.shell target ++ " with non-directory")
    else if how.keepsOld && c.files.pathExists (pathOf target) then c
    else copyFile path target bytes executable c
  | .link link, c =>
    if how.keepsLinks then copyLink path target link c
    else
      match c.files.stat (pathOf path) with
      | .ok (_, .file bytes executable) => copyFile path target bytes executable c
      | .ok _ => c
      | .error fault => c.complain ("cannot stat " ++ Quoted.shell path ++ ": " ++ fault.summary)
  | .dir d, c =>
    match nodeAt (pathOf target) c.files with
    | .ok (.file _ _) =>
      c.complain ("cannot overwrite non-directory " ++ Quoted.shell target ++ " with directory " ++
        Quoted.shell path)
    | .ok _ => copyEntries how path target d c
    | .error _ =>
      match c.files.makeDir (pathOf target) with
      | .ok files => copyEntries how path target d ({ c with files }.note path target)
      | .error fault =>
        c.complain ("cannot create directory " ++ Quoted.shell target ++ ": " ++ fault.summary)

/-- Copies the entries of a directory. -/
def copyEntries (how : Copying) (path target : String) : Directory → Copied → Copied
  | .empty, c => c
  | .entry name node rest, c =>
    let name := Bytes.ofText name
    copyEntries how path target rest (copyNode how (below path name) (below target name) node c)

end

/-- Copies what is at a path to another path. -/
def copyAt (how : Copying) (path target : String) (fs : FileSystem) : Copied :=
  let c : Copied := ⟨fs, [], []⟩
  let same := Quoted.shell path ++ " and " ++ Quoted.shell target ++ " are the same file"
  let node :=
    if how.keepsLinks then nodeAt (pathOf path) fs else (fs.stat (pathOf path)).map Prod.snd
  match node, fs.stat (pathOf target) with
  | .error fault, _ => c.complain ("cannot stat " ++ Quoted.shell path ++ ": " ++ fault.summary)
  | _, .error .notDirectory =>
    c.complain ("cannot stat " ++ Quoted.shell target ++ ": Not a directory")
  | .ok (.dir d), _ =>
    if !how.recursive then
      c.complain ("-r not specified; omitting directory " ++ Quoted.shell path)
    else
      match targetPlace? fs true path, targetPlace? fs true target with
      | some place, some targetPlace =>
        if place == targetPlace then c.complain same
        else if isWithin targetPlace place then
          let c := copyNode how path target (.dir d) c
          { c with said := [] }.complain ("cannot copy a directory, " ++ Quoted.shell path ++
            ", into itself, " ++ Quoted.shell target)
        else copyNode how path target (.dir d) c
      | _, _ => copyNode how path target (.dir d) c
  | .ok node, _ =>
    let place := targetPlace? fs (!how.keepsLinks) path
    if place.isSome && place == targetPlace? fs (!how.keepsLinks) target then c.complain same
    else copyNode how path target node c

/-- Makes what came of copying true, and tells about it. -/
def report (call : Call) (verbose : Bool) (copy : FileSystem → Copied) : Work Nat := do
  let c ← Work.files fun fs =>
    let c := copy fs
    (c, c.files)
  for complaint in c.complaints.reverse do
    complain call complaint
  let status := if c.complaints.isEmpty then 0 else 1
  if verbose then say call (String.join c.said.reverse) status else return status

/-- Copies files. -/
def cp : Tool := fun _ call =>
  withOptions call {
      letters := "abdfiHLlnpPrRst:TuvxZ"
      names := [("archive", .nothing, 'a'), ("force", .nothing, 'f'), ("no-clobber", .nothing, 'n'),
        ("no-dereference", .nothing, 'P'), ("dereference", .nothing, 'L'),
        ("recursive", .nothing, 'r'), ("verbose", .nothing, 'v'), ("preserve", .optional, 'p'),
        ("target-directory", .required, 't'), ("no-target-directory", .nothing, 'T'),
        ("update", .optional, 'u')] } 1
    fun given => do
      let recursive := given.has 'r' || given.has 'R' || given.has 'a'
      let keepsLinks :=
        match given.last? ['L', 'P', 'd', 'a', 'H'] with
        | some 'L' | some 'H' => false
        | some _ => true
        | none => recursive
      let how : Copying := ⟨recursive, keepsLinks, given.has 'n'⟩
      withDestinations call given "file " false fun path target =>
        report call (given.has 'v') (copyAt how path target)

/-! ## Giving other names -/

/-- Whether a path is one of the names that every directory has, or has no steps. -/
def isBusy (fs : FileSystem) (path : String) : Bool :=
  match (pathOf path).components.getLast? with
  | some (.name _) => false
  | _ => (fs.stat (pathOf path)).isOk

/-- Moves what is at a path to another path. -/
def moveAt (keepsOld : Bool) (path target : String) (fs : FileSystem) : Copied :=
  let c : Copied := ⟨fs, [], []⟩
  let cannot := "cannot move " ++ Quoted.shell path ++ " to "
  let renamed := "renamed " ++ Quoted.shell path ++ " -> " ++ Quoted.shell target ++ "\n"
  match nodeAt (pathOf path) fs, targetPlace? fs false path with
  | .error fault, _ =>
    c.complain ("cannot stat " ++ Quoted.shell path ++ ": " ++ fault.summary)
  | .ok node, place? =>
    let place := place?.getD []
    let moved (targetPlace : List String) : Copied :=
      { c with files := (fs.erase place).put targetPlace node, said := [renamed] }
    if isBusy fs path then
      c.complain (cannot ++ Quoted.shell target ++ ": Device or resource busy")
    else
      match fs.resolveLink (pathOf target) with
      | .error fault => c.complain (cannot ++ Quoted.shell target ++ ": " ++ fault.summary)
      | .ok (.free parent name) =>
        if isWithin parent place && node.isDir then
          c.complain (cannot ++ "a subdirectory of itself, " ++ Quoted.shell target)
        else if target.toList.getLast? == some '/' && !node.isDir then
          c.complain (cannot ++ Quoted.shell target ++ ": Not a directory")
        else moved (parent ++ [name])
      | .ok (.node targetPlace old) =>
        if targetPlace == place then
          c.complain (Quoted.shell path ++ " and " ++ Quoted.shell target ++ " are the same file")
        else if keepsOld then c
        else
          match node.isDir, old with
          | true, .dir .empty => moved targetPlace
          | true, .dir _ =>
            c.complain (cannot ++ Quoted.shell target ++ ": Directory not empty")
          | true, _ =>
            c.complain ("cannot overwrite non-directory " ++ Quoted.shell target ++
              " with directory " ++ Quoted.shell path)
          | false, .dir _ =>
            c.complain ("cannot overwrite directory " ++ Quoted.shell target ++
              " with non-directory")
          | false, _ => moved targetPlace

/-- Gives files other names. -/
def mv : Tool := fun _ call =>
  withOptions call {
      letters := "bfinS:Tt:uvZ"
      names := [("force", .nothing, 'f'), ("no-clobber", .nothing, 'n'), ("verbose", .nothing, 'v'),
        ("target-directory", .required, 't'), ("no-target-directory", .nothing, 'T')] } 1
    fun given =>
      withDestinations call given "file " false fun path target =>
        report call (given.has 'v') (moveAt (given.last? ['f', 'n'] == some 'n') path target)

end LintRoster.Machine.Tool
