import LintRoster.Machine.Mode
import LintRoster.Machine.Tool.Entry

/-!
# Tools on files

Tools that make files, also temporary ones, and change what is permitted for them.
-/

namespace LintRoster.Machine.Tool

/-- Makes files that are missing. -/
def touch : Tool := fun _ call =>
  withOptions call {
      letters := "acd:fhmr:t:"
      names := [("no-create", .nothing, 'c'), ("date", .required, 'd'), ("reference", .required, 'r'),
        ("no-dereference", .nothing, 'h'), ("time", .required, 'm')] } 1
    fun given => do
      if given.operands.isEmpty then misused call 1 "missing file operand"
      else
        forEach (fun path => do
          let p := pathOf path
          let isThere ← Work.look fun fs => fs.stat p
          match isThere with
          | .ok _ => return 0
          | .error _ =>
            if given.has 'c' then return 0
            match ← Work.change fun fs => fs.writeBytes p [] false with
            | .ok () => return 0
            | .error .isDirectory =>
              complain call ("setting times of " ++ Quoted.shell path ++
                ": No such file or directory")
              return 1
            | .error fault =>
              complain call ("cannot touch " ++ Quoted.shell path ++ ": " ++ fault.summary)
              return 1) given.operands

/-- The permissions of a file. -/
def modeOf (executable : Bool) : Nat :=
  if executable then 0o755 else 0o644

mutual

/-- A tree with the permissions of its files changed. -/
def changeModes (change : Bool → Bool) : Node → Node
  | .file bytes executable => .file bytes (change executable)
  | .link target => .link target
  | .dir d => .dir (changeEntries change d)

/-- The entries of a directory with the permissions of all files below changed. -/
def changeEntries (change : Bool → Bool) : Directory → Directory
  | .empty => .empty
  | .entry name node rest => .entry name (changeModes change node) (changeEntries change rest)

end

/-- Whether an argument is a change of permissions, though it begins like an option. -/
def isModeWord (w : String) : Bool :=
  match w.toList with
  | '-' :: c :: cs => (c :: cs).all fun c => ("rwxXstugo,+-=01234567").toList.contains c
  | _ => false

/-- Changes the permissions at a path. -/
def changeModeAt (call : Call) (recursive : Bool) (change : Bool → Bool) (path : String) :
    Work Nat := do
  match ← Work.look fun fs => fs.stat (pathOf path) with
  | .error fault =>
    let isLink ← Work.look fun fs => (nodeAt (pathOf path) fs).toOption.isSome
    complain call (if isLink then "cannot operate on dangling symlink " ++ Quoted.shell path
      else "cannot access " ++ Quoted.shell path ++ ": " ++ fault.summary)
    return 1
  | .ok (place, node) =>
    let node :=
      match node with
      | .dir d => if recursive then changeModes change (.dir d) else .dir d
      | node => changeModes change node
    Work.files fun fs => ((), if place.isEmpty then fs else fs.put place node)
    return 0

/-- Changes permissions. -/
def chmod : Tool := fun _ call =>
  let isMode := isModeWord (call.arguments.headD "")
  let arguments := if isMode then "--" :: call.arguments else call.arguments
  withOptions { call with arguments } {
      letters := "Rcfv"
      names := [("recursive", .nothing, 'R'), ("verbose", .nothing, 'v'), ("silent", .nothing, 'f'),
        ("quiet", .nothing, 'f'), ("changes", .nothing, 'c')] } 1
    fun given => do
      match given.operands with
      | [] => misused call 1 "missing operand"
      | [mode] => misused call 1 ("missing operand after " ++ Quoted.curved mode)
      | mode :: paths =>
        let mask ← Work.ask (.mask none)
        let unnamed := Mode.without 0o777 mask
        if (Mode.parse? false unnamed 0o644 mode).isNone then
          misused call 1 ("invalid mode: " ++ Quoted.curved mode)
        else
          let change (executable : Bool) : Bool :=
            let after := (Mode.parse? executable unnamed (modeOf executable) mode).getD 0
            (after &&& 0o111) != 0
          forEach (changeModeAt call (given.has 'R') change) paths

/-! ## Temporary files -/

/-- The letters that names of temporary files are made of. -/
def temporaryLetters : List Char :=
  "abcdefghijkmnpqrstuvwxyzABCDEFGHJKLMNPQRSTUVWXYZ23456789".toList

/-- A text of some length for a number. -/
def lettersFor : Nat → Nat → List Char
  | 0, _ => []
  | length + 1, n =>
    let count := temporaryLetters.length
    temporaryLetters.getD ((n * 37 + length * 11 + 5) % count) 'a' :: lettersFor length (n / count)

/-- The first free path with letters in the place of the marks of a template. -/
def freePath? (fs : FileSystem) (front back : String) (count : Nat) : Nat → Nat → Option String
  | 0, _ => none
  | fuel + 1, n =>
    let path := front ++ String.ofList (lettersFor count n) ++ back
    match fs.resolveLink (pathOf path) with
    | .ok (.free _ _) => some path
    | .ok (.node _ _) => freePath? fs front back count fuel (n + 1)
    | .error _ => some path

/-- Makes a temporary file or directory. -/
def mktemp : Tool := fun _ call =>
  withOptions call {
      letters := "dup:qt"
      names := [("directory", .nothing, 'd'), ("dry-run", .nothing, 'u'), ("quiet", .nothing, 'q'),
        ("tmpdir", .optional, 'p'), ("suffix", .required, 's')] } 1
    fun given => do
      match given.operands with
      | _ :: _ :: _ => misused call 1 "too many templates"
      | operands =>
        let template := operands.headD "tmp.XXXXXXXXXX"
        let usual := (call.environment.get? "TMPDIR").getD "/tmp"
        let dir? :=
          match given.value? 'p' with
          | some dir => some (if dir == "" then usual else dir)
          | none => if operands.isEmpty || given.has 't' then some usual else none
        let suffix := given.value? 's'
        let cs := template.toList
        let back := if suffix.isSome then [] else (cs.reverse.takeWhile (· != 'X')).reverse
        let marked := cs.take (cs.length - back.length)
        let count := (marked.reverse.takeWhile (· == 'X')).length
        let back := String.ofList back ++ suffix.getD ""
        if count < 3 then
          complain call ("too few X's in template " ++ Quoted.curved template)
          return 1
        else
          let name := String.ofList (marked.take (marked.length - count))
          let front := match dir? with | some dir => below dir name | none => name
          let path := (← Work.look fun fs => freePath? fs front back count 10000 0).getD template
          let node : Node := if given.has 'd' then .dir .empty else .file [] false
          let made ←
            if given.has 'u' then pure (.ok ()) else Work.change (putNew (pathOf path) node)
          match made with
          | .ok () => say call (path ++ "\n") 0
          | .error fault =>
            let what := if given.has 'd' then "directory" else "file"
            let full := match dir? with | some dir => below dir template | none => template
            complain call ("failed to create " ++ what ++ " via template " ++ Quoted.curved full ++
              ": " ++ fault.summary)
            return 1

end LintRoster.Machine.Tool
