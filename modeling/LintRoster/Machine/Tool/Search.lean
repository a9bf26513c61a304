import LintRoster.Machine.Tool.Entry
import LintRoster.Machine.Tool.Spawn
import LintRoster.Shell.Pattern

/-!
# Searching file trees

A tool that goes through file trees and does something with the entries that meet a criterion. A
criterion is an expression, whose actions are carried out when it is decided that far.
-/

namespace LintRoster.Machine.Tool

namespace Search

/-- What an entry may have to meet, and what may be done with it. -/
inductive Criterion where
  | constant (holds : Bool)
  /-- A pattern for the name or for the whole path. -/
  | named (whole folds : Bool) (pattern : String)
  | kind (letters : List Char)
  | empty
  | executable
  /-- A size, compared in units. -/
  | sized (order : Option Char) (amount unit : Nat)
  | permitted (mode : Nat)
  | print (ending : String)
  | format (text : String)
  | run (arguments : List String)
  | collect (number : Nat) (arguments : List String)
  | delete
  | prune
  | quit
  | negation (c : Criterion)
  | both (a b : Criterion)
  | either (a b : Criterion)
deriving Inhabited

/-- How trees are gone through. -/
structure Walk where
  followsLinks : Bool
  least : Nat
  most : Option Nat
  contentsFirst : Bool

/-! ## Reading criteria -/

/-- What is left to be read, and what is known about the walk. -/
structure Reading where
  words : List String
  walk : Walk
  hasAction : Bool
  collected : List (List String)
  last : Option String

/-- A step in reading a criterion. -/
abbrev Read :=
  StateT Reading (Except String)

/-- Takes the next word. -/
def next? : Read (Option String) := do
  match (← get).words with
  | [] => return none
  | w :: ws =>
    modify fun r => { r with words := ws }
    return some w

/-- Takes the argument of a word. -/
def argument (word : String) : Read String := do
  match ← next? with
  | some w => return w
  | none => throw ("missing argument to \x60" ++ word ++ "'")

/-- Notes that something is done. -/
def acting (c : Criterion) : Read Criterion := do
  modify fun r => { r with hasAction := true }
  return c

/-- The arguments of a program up to their end, and whether many paths are passed at once. -/
def programFrom (word : String) : List String → List String → Read (List String × Bool)
  | _, [] => throw ("missing argument to \x60" ++ word ++ "'")
  | before, w :: ws =>
    if w == ";" && !before.isEmpty then do
      modify fun r => { r with words := ws }
      return (before.reverse, false)
    else if w == "+" && before.head? == some "\x7b\x7d" then do
      modify fun r => { r with words := ws }
      return (before.reverse.dropLast, true)
    else programFrom word (w :: before) ws

/-- A size that is written as a number with a unit. -/
def size? (text : String) : Option Criterion :=
  let cs := text.toList
  let order := cs.head?.filter fun c => c == '+' || c == '-'
  let cs := if order.isSome then cs.drop 1 else cs
  let ds := cs.takeWhile Char.isDigit
  let units : List (List Char × Nat) :=
    [([], 512), (['b'], 512), (['c'], 1), (['w'], 2), (['k'], 1024), (['M'], 1048576),
      (['G'], 1073741824)]
  match Text.natural? 10 ds, units.lookup (cs.drop ds.length) with
  | some n, some unit => some (.sized order n unit)
  | _, _ => none

/-- The words for options that apply to the whole walk. -/
def walkOption? (word : String) : Option (Nat → Walk → Walk) :=
  if word == "-maxdepth" then some fun n w => { w with most := some n }
  else if word == "-mindepth" then some fun n w => { w with least := n }
  else none

/-- Reads a test or an action. -/
def primary (word : String) : Read Criterion := do
  match walkOption? word with
  | some change =>
    let text ← argument word
    match text.toNat? with
    | some n =>
      modify fun r => { r with walk := change n r.walk }
      return .constant true
    | none =>
      throw ("Expected a positive decimal integer argument to " ++ word ++ ", but got " ++
        Quoted.curved text)
  | none =>
    match word with
    | "-true" | "-mount" | "-xdev" | "-noleaf" => return .constant true
    | "-false" | "-nouser" | "-nogroup" => return .constant false
    | "-follow" =>
      modify fun r => { r with walk := { r.walk with followsLinks := true } }
      return .constant true
    | "-depth" | "-d" =>
      modify fun r => { r with walk := { r.walk with contentsFirst := true } }
      return .constant true
    | "-name" => return .named false false (← argument word)
    | "-iname" => return .named false true (← argument word)
    | "-path" | "-wholename" => return .named true false (← argument word)
    | "-ipath" | "-iwholename" => return .named true true (← argument word)
    | "-type" =>
      let text ← argument word
      let letters := text.toList.filter (· != ',')
      match letters.find? fun c => !(['b', 'c', 'd', 'f', 'l', 'p', 's'].contains c) with
      | some _ => throw ("Unknown argument to -type: " ++ text)
      | none => return .kind letters
    | "-empty" => return .empty
    | "-executable" => return .executable
    | "-readable" | "-writable" => return .constant true
    | "-size" =>
      let text ← argument word
      match size? text with
      | some c => return c
      | none => throw ("invalid -size type \x60" ++ text ++ "'")
    | "-perm" =>
      let text ← argument word
      let ds := text.toList.dropWhile fun c => c == '-' || c == '/'
      match Text.natural? 8 ds with
      | some n => return .permitted n
      | none => return .executable
    | "-newer" | "-mtime" | "-mmin" | "-atime" | "-ctime" | "-user" | "-group" =>
      discard (argument word)
      return .constant true
    | "-print" => acting (.print "\n")
    | "-print0" => acting (.print "\x00")
    | "-printf" => acting (.format (← argument word))
    | "-exec" | "-ok" | "-execdir" =>
      let (arguments, many) ← programFrom word [] (← get).words
      if many then
        let number := (← get).collected.length
        modify fun r => { r with collected := r.collected ++ [arguments] }
        acting (.collect number arguments)
      else acting (.run arguments)
    | "-delete" =>
      modify fun r => { r with walk := { r.walk with contentsFirst := true } }
      acting .delete
    | "-prune" => return .prune
    | "-quit" => acting .quit
    | word =>
      if word.toList.head? == some '-' then throw ("unknown predicate \x60" ++ word ++ "'")
      else
        match (← get).last with
        | some before =>
          throw ("paths must precede expression: \x60" ++ word ++ "'\n" ++
            "find: possible unquoted pattern after predicate \x60" ++ before ++ "'?")
        | none => throw ("paths must precede expression: \x60" ++ word ++ "'")

mutual

/-- Reads criteria of which one is enough. -/
def disjunction : Nat → Read Criterion
  | 0 => throw "expression is too deep"
  | fuel + 1 => do
    let first ← conjunction fuel
    match (← get).words.head? with
    | some "-o" | some "-or" =>
      discard next?
      return .either first (← disjunction fuel)
    | _ => return first

/-- Reads criteria that must all be met. -/
def conjunction : Nat → Read Criterion
  | 0 => throw "expression is too deep"
  | fuel + 1 => do
    let first ← factor fuel
    match (← get).words.head? with
    | none | some "-o" | some "-or" | some ")" | some "," => return first
    | some "-a" | some "-and" =>
      discard next?
      return .both first (← conjunction fuel)
    | some _ => return .both first (← conjunction fuel)

/-- Reads a single criterion. -/
def factor : Nat → Read Criterion
  | 0 => throw "expression is too deep"
  | fuel + 1 => do
    match ← next? with
    | none => throw "expected an expression"
    | some "!" | some "-not" =>
      if (← get).words.isEmpty then throw "expected an expression after '!'"
      return .negation (← factor fuel)
    | some "(" =>
      let c ← disjunction fuel
      match ← next? with
      | some ")" => return c
      | _ =>
        throw ("invalid expression; I was expecting to find a ')' somewhere but did not see one.")
    | some ")" => throw "you have too many ')'"
    | some "-o" =>
      throw "invalid expression; you have used a binary operator '-o' with nothing before it."
    | some word =>
      let c ← primary word
      modify fun r => { r with last := some word }
      return c

end

/-- Reads a whole expression. Without an action, paths are printed. -/
def criterion (fuel : Nat) : Read Criterion := do
  if (← get).words.isEmpty then return .print "\n"
  let c ← disjunction fuel
  match (← get).words with
  | ")" :: _ => throw "you have too many ')'"
  | w :: _ => throw ("paths must precede expression: \x60" ++ w ++ "'")
  | [] => return if (← get).hasAction then c else .both c (.print "\n")

/-! ## Deciding criteria -/

/-- An entry of a tree: its path, and how deep it is. -/
structure Entry where
  path : String
  depth : Nat
  node : Node

/-- What is known while trees are gone through. -/
structure Visit where
  status : Nat
  quits : Bool
  prunes : Bool
  /-- The paths that were collected for programs, last first. -/
  collected : List (Nat × String)

/-- Whether a name fits a pattern. -/
def fits (folds : Bool) (pattern name : String) : Bool :=
  let change (s : String) : List Char := if folds then s.toList.map Char.toLower else s.toList
  Shell.Pattern.fits (Shell.Pattern.ofSigns ((change pattern).map fun c => ⟨c, true⟩)) (change name)

/-- The letter for the kind of a node. -/
def letterOf (path : String) (fs : FileSystem) : Node → Char
  | .dir _ => 'd'
  | .link _ => 'l'
  | .file _ _ =>
    let place := (fs.stat (pathOf path)).toOption.map Prod.fst
    if (place.bind Device.at?).isSome then 'c' else 'f'

/-- How many bytes an entry takes. -/
def sizeOf : Node → Nat
  | .file bytes _ => bytes.length
  | .link target => target.utf8ByteSize
  | .dir _ => 4096

/-- The permissions of a node. -/
def permissionsOf : Node → Nat
  | .file _ executable => if executable then 0o755 else 0o644
  | .link _ => 0o777
  | .dir _ => 0o755

/-- The text for an entry in a format. -/
def formatText (letter : Char) (e : Entry) : List Char → String
  | '\\' :: c :: cs =>
    let one :=
      match c with
      | 'n' => "\n"
      | 't' => "\t"
      | '0' => "\x00"
      | '\\' => "\\"
      | c => "\\" ++ String.singleton c
    one ++ formatText letter e cs
  | '%' :: c :: cs =>
    let one :=
      match c with
      | 'p' => e.path
      | 'f' => lastStep e.path
      | 'h' => withoutLastStep e.path
      | 'P' => String.intercalate "/" ((e.path.splitOn "/").drop 1)
      | 's' => toString (sizeOf e.node)
      | 'd' => toString e.depth
      | 'y' => String.singleton letter
      | 'm' => String.ofList (Nat.toDigits 8 (permissionsOf e.node))
      | 'u' | 'g' => "root"
      | '%' => "%"
      | c => "%" ++ String.singleton c
    one ++ formatText letter e cs
  | c :: cs => String.singleton c ++ formatText letter e cs
  | [] => ""

/-- A size in units, rounded up. -/
def inUnits (unit size : Nat) : Nat :=
  (size + unit - 1) / unit

variable (exec : Exec) (call : Call)

/-- Decides a criterion for an entry, and does what it says on the way. -/
def decide (e : Entry) : Criterion → Visit → Work (Bool × Visit)
  | .constant holds, v => return (holds, v)
  | .named whole folds pattern, v =>
    return (fits folds pattern (if whole then e.path else lastStep e.path), v)
  | .kind letters, v => do
    let letter ← Work.look fun fs => letterOf e.path fs e.node
    return (letters.contains letter, v)
  | .empty, v =>
    match e.node with
    | .file bytes _ => return (bytes.isEmpty, v)
    | .dir .empty => return (true, v)
    | _ => return (false, v)
  | .executable, v => do
    let holds ← Work.look fun fs => fs.isExecutable (pathOf e.path) || fs.isDir (pathOf e.path)
    return (holds, v)
  | .sized order amount unit, v =>
    let n := inUnits unit (sizeOf e.node)
    return (match order with | some '+' => amount < n | some _ => n < amount | none => n == amount, v)
  | .permitted mode, v => return (permissionsOf e.node == mode, v)
  | .print ending, v => do
    discard (writeTo 1 (e.path ++ ending))
    return (true, v)
  | .format text, v => do
    let letter ← Work.look fun fs => letterOf e.path fs e.node
    discard (writeTo 1 (formatText letter e text.toList))
    return (true, v)
  | .run arguments, v => do
    let arguments := arguments.map fun w => String.intercalate e.path (w.splitOn "\x7b\x7d")
    let how ← awaitChild (← start exec call Quoted.curved arguments)
    return (how == .exited 0, v)
  | .collect number _, v => return (true, { v with collected := (number, e.path) :: v.collected })
  | .delete, v => do
    let remove (fs : FileSystem) : Except FileFault FileSystem :=
      if e.node.isDir then removeDirectory (pathOf e.path) fs else removeFile (pathOf e.path) fs
    if e.path == "." then return (true, v)
    match ← Work.change remove with
    | .ok () => return (true, v)
    | .error fault =>
      complain call ("cannot delete " ++ Quoted.curved e.path ++ ": " ++ fault.summary)
      return (false, { v with status := 1 })
  | .prune, v => return (true, { v with prunes := true })
  | .quit, v => return (true, { v with quits := true })
  | .negation c, v => do
    let (holds, v) ← decide e c v
    return (!holds, v)
  | .both a b, v => do
    let (holds, v) ← decide e a v
    if holds && !v.quits then decide e b v else return (holds, v)
  | .either a b, v => do
    let (holds, v) ← decide e a v
    if holds || v.quits then return (holds, v) else decide e b v

/-- The entry at a path. -/
def entryAt? (w : Walk) (depth : Nat) (path : String) (fs : FileSystem) : Except FileFault Entry :=
  let found : Except FileFault Node :=
    match w.followsLinks, fs.stat (pathOf path) with
    | true, .ok (_, node) => .ok node
    | _, _ => nodeAt (pathOf path) fs
  found.map fun node => ⟨path, depth, node⟩

mutual

/-- Goes through the tree at a path. -/
def visit (w : Walk) (c : Criterion) : Nat → Nat → String → Visit → Work Visit
  | 0, _, _, v => return v
  | fuel + 1, depth, path, v => do
    if v.quits then return v
    match ← Work.look (entryAt? w depth path) with
    | .error fault =>
      complain call (Quoted.curved path ++ ": " ++ fault.summary)
      return { v with status := 1 }
    | .ok e =>
      let decides := w.least ≤ depth
      let v := { v with prunes := false }
      let v ← if decides && !w.contentsFirst then Prod.snd <$> decide exec call e c v else pure v
      let descends := w.most.all (depth < ·) && !v.prunes
      let names :=
        match e.node with
        | .dir d => if descends then d.names.map Bytes.ofText else []
        | _ => []
      let v ← visitAll w c fuel (depth + 1) (names.map (below path)) v
      if decides && w.contentsFirst && !v.quits then Prod.snd <$> decide exec call e c v
      else return v

/-- Goes through the trees at paths. -/
def visitAll (w : Walk) (c : Criterion) : Nat → Nat → List String → Visit → Work Visit
  | 0, _, _, v => return v
  | _, _, [], v => return v
  | fuel + 1, depth, path :: paths, v => do
    visitAll w c fuel depth paths (← visit w c fuel depth path v)

end

/-- Starts the programs that paths were collected for. -/
def runCollected (paths : List (Nat × String)) : Nat → List (List String) → Nat → Work Nat
  | _, [], status => return status
  | number, arguments :: rest, status => do
    let own := (paths.filter fun p => p.1 == number).map Prod.snd
    let status ←
      if own.isEmpty then pure status
      else
        let how ← awaitChild (← start exec call Quoted.curved (arguments ++ own))
        pure (if how == .exited 0 then status else 1)
    runCollected paths (number + 1) rest status

/-- Whether a word begins an expression. -/
def beginsExpression (w : String) : Bool :=
  match w.toList with
  | '-' :: _ :: _ => true
  | ['('] | ['!'] | [')'] => true
  | _ => false

end Search

/-- Goes through file trees. -/
def find : Tool := fun exec call => do
  let leading := call.arguments.takeWhile fun w => ["-H", "-L", "-P"].contains w
  let rest := call.arguments.drop leading.length
  let paths := rest.takeWhile fun w => !Search.beginsExpression w
  let walk : Search.Walk := ⟨leading.getLast? == some "-L", 0, none, false⟩
  let reading : Search.Reading := ⟨rest.drop paths.length, walk, false, [], none⟩
  match (Search.criterion (2 * rest.length + 10)).run reading with
  | .error complaint =>
    complain call complaint
    return 1
  | .ok (c, r) =>
    let paths := if paths.isEmpty then ["."] else paths
    let v ← Search.visitAll exec call r.walk c Work.rounds 0 paths ⟨0, false, false, []⟩
    Search.runCollected exec call v.collected.reverse 0 r.collected v.status

end LintRoster.Machine.Tool
