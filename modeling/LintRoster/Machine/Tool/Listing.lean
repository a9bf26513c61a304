import LintRoster.Machine.Tool.Entry

/-!
# Listing directories

A tool that lists the names in directories, in order, possibly with what is known about the entries.
The machine keeps no times, so every entry is shown with the same one.
-/

namespace LintRoster.Machine.Tool

namespace Listing

/-- An entry to be listed: its name as it is shown, and what it stands for. -/
structure Item where
  name : String
  node : Node

/-- How entries are listed. -/
structure Style where
  given : Given
  isLong : Bool
  showsHidden : Bool
  /-- The sign behind names: none, for directories only, or for all kinds. -/
  signs : Option Char

/-- The style that options ask for. -/
def Style.of (given : Given) : Style where
  given := given
  isLong := given.has 'l' || given.has 'n' || given.has 'g' || given.has 'o'
  showsHidden := given.has 'a' || given.has 'A' || given.has 'f'
  signs := given.last? ['F', 'p']

/-- How many bytes a node takes. -/
def sizeOf : Node → Nat
  | .file bytes _ => bytes.length
  | .link target => target.utf8ByteSize
  | .dir _ => 4096

/-- How many blocks a node takes. -/
def blocksOf : Node → Nat
  | .file bytes _ => (bytes.length + 4095) / 4096 * 4
  | .link _ => 0
  | .dir _ => 4

/-- How many names a node has. -/
def linksOf : Node → Nat
  | .dir d => 2 + (d.toList.filter fun e => e.2.isDir).length
  | _ => 1

/-- The letters for the kind and the permissions of a node. -/
def modeText : Node → String
  | .file _ true => "-rwxr-xr-x"
  | .file _ false => "-rw-r--r--"
  | .link _ => "lrwxrwxrwx"
  | .dir _ => "drwxr-xr-x"

/-- The sign behind the name of a node. -/
def signOf (signs : Option Char) (node : Node) : String :=
  match signs, node with
  | some _, .dir _ => "/"
  | some 'F', .file _ true => "*"
  | some 'F', .link _ => "@"
  | _, _ => ""

/-- A name as it is shown. -/
def shownName (s : Style) (item : Item) : String :=
  let quote (c : Char) : String :=
    if c == '"' then "\\\"" else if c == '\\' then "\\\\" else if c.toNat < 32 then Quoted.escape c
    else String.singleton c
  let name :=
    if s.given.has 'Q' then "\"" ++ String.join (item.name.toList.map quote) ++ "\""
    else if s.given.has 'b' then
      String.join (item.name.toList.map fun c => if c == ' ' then "\\ " else quote c)
    else item.name
  let tail :=
    match s.isLong, item.node with
    | true, .link target => " -> " ++ Bytes.ofText target
    | _, _ => signOf s.signs item.node
  name ++ tail

/-- A text that is filled up with blanks in front of it. -/
def padded (width : Nat) (text : String) : String :=
  String.ofList (List.replicate (width - text.length) ' ') ++ text

/-- The greatest length of the texts of entries. -/
def widthOf (text : Item → String) (items : List Item) : Nat :=
  items.foldl (fun n item => max n (text item).length) 0

/-- The lines for entries, each as long as it gets. -/
def longLines (s : Style) (items : List Item) : List String :=
  let links (i : Item) : String := toString (linksOf i.node)
  let size (i : Item) : String := toString (sizeOf i.node)
  let linkWidth := widthOf links items
  let sizeWidth := widthOf size items
  let owner := if s.given.has 'n' then "0" else "root"
  let owners := (if s.given.has 'g' then [] else [owner]) ++ (if s.given.has 'o' then [] else [owner])
  items.map fun i =>
    String.intercalate " " ([modeText i.node, padded linkWidth (links i)] ++ owners ++
      [padded sizeWidth (size i), "Jan  1 00:00", shownName s i]) ++ "\n"

/-- The text for entries. -/
def body (s : Style) (items : List Item) : String :=
  let blocks (i : Item) : String := toString (blocksOf i.node)
  let width := widthOf blocks items
  let name (i : Item) : String :=
    (if s.given.has 's' then padded width (blocks i) ++ " " else "") ++ shownName s i
  if s.isLong then String.join (longLines s items)
  else if items.isEmpty then ""
  else
    let names := items.map name
    let row := String.intercalate "  " names
    match s.given.last? ['1', 'm', 'C', 'x'] with
    | some 'm' => String.intercalate ", " names ++ "\n"
    | some '1' | none => String.join (names.map (· ++ "\n"))
    | some _ =>
      if row.length ≤ 80 then row ++ "\n" else String.join (names.map (· ++ "\n"))

/-- The line in front of the entries of a directory. -/
def total (s : Style) (items : List Item) : String :=
  if s.isLong || s.given.has 's' then
    "total " ++ toString ((items.map fun i => blocksOf i.node).foldl Nat.add 0) ++ "\n"
  else ""

/-- Whether a name is listed. -/
def isListed (s : Style) (name : String) : Bool :=
  (s.showsHidden || name.toList.head? != some '.') &&
    !(s.given.has 'B' && name.toList.getLast? == some '~')

/-- Entries in the order in which they are listed. -/
def ordered (s : Style) (items : List Item) : List Item :=
  let items :=
    match s.given.last? ['S', 'U', 'f', 't'] with
    | some 'S' => items.mergeSort fun a b => sizeOf b.node ≤ sizeOf a.node
    | _ => items
  if s.given.has 'r' then items.reverse else items

/-- The entries of a directory that are listed. -/
def itemsOf (s : Style) (d : Directory) : List Item :=
  let own := (d.toList.filter fun e => isListed s e.1).map fun e => ⟨Bytes.ofText e.1, e.2⟩
  let dots : List Item := if s.given.has 'a' || s.given.has 'f' then [⟨".", .dir d⟩, ⟨"..", .dir d⟩] else []
  ordered s (dots ++ own)

mutual

/-- The sections for a directory and for those below it. -/
def sections (s : Style) (headed : Bool) (path : String) : Directory → List String
  | d =>
    let items := itemsOf s d
    let own := (if headed then path ++ ":\n" else "") ++ total s items ++ body s items
    if s.given.has 'R' then
      let deeper := deeperSections s path d
      own :: (if s.given.has 'r' then deeper.reverse else deeper).flatten
    else [own]

/-- The sections for the directories among entries. -/
def deeperSections (s : Style) (path : String) : Directory → List (List String)
  | .empty => []
  | .entry name (.dir d) rest =>
    let deeper := deeperSections s path rest
    if isListed s name then sections s true (below path (Bytes.ofText name)) d :: deeper else deeper
  | .entry _ _ rest => deeperSections s path rest

end

/-- What an operand stands for. Links are followed unless entries are described. -/
def operandNode (s : Style) (path : String) (fs : FileSystem) : Except FileFault Node :=
  let isDescribed := (s.isLong || s.given.has 'd' || s.signs == some 'F') &&
    !(s.given.has 'L' || s.given.has 'H')
  if isDescribed then nodeAt (pathOf path) fs
  else
    match fs.stat (pathOf path) with
    | .ok (_, node) => .ok node
    | .error fault => if s.given.has 'L' then .error fault else nodeAt (pathOf path) fs

/-- What is written about operands, and what is to be complained about. -/
def listing (s : Style) (operands : List String) (fs : FileSystem) :
    String × List (String × FileFault) :=
  let found := operands.map fun path => (path, operandNode s path fs)
  let faults := found.filterMap fun (path, node) =>
    match node with
    | .error fault => some (path, fault)
    | .ok _ => none
  let items : List Item := found.filterMap fun (path, node) =>
    match node with
    | .ok node => some ⟨path, node⟩
    | .error _ => none
  let items := items.mergeSort fun a b => !(b.name < a.name)
  let isFile (i : Item) : Bool := s.given.has 'd' || !i.node.isDir
  let files := ordered s (items.filter isFile)
  let dirs := ordered s (items.filter fun i => !isFile i)
  let headed := operands.length > 1 || s.given.has 'R'
  let parts := dirs.flatMap fun i =>
    match i.node with
    | .dir d => sections s headed i.name d
    | _ => []
  let parts := if files.isEmpty then parts else body s files :: parts
  (String.intercalate "\n" parts, faults)

/-- The options of the tool. -/
def spec : Options where
  letters := "aAbBcCdfFgGhHiI:klLmnNopqQrRsStT:uUvw:xXZ1"
  names :=
    [("all", .nothing, 'a'), ("almost-all", .nothing, 'A'), ("directory", .nothing, 'd'),
      ("classify", .optional, 'F'), ("recursive", .nothing, 'R'), ("reverse", .nothing, 'r'),
      ("quote-name", .nothing, 'Q'), ("size", .nothing, 's'), ("inode", .nothing, 'i'),
      ("color", .optional, 'G'), ("format", .required, 'I'), ("sort", .required, 'T')]

end Listing

/-- Lists directories. -/
def ls : Tool := fun _ call =>
  withOptions call Listing.spec 2 fun given => do
    let operands := if given.operands.isEmpty then ["."] else given.operands
    let (text, faults) ← Work.look (Listing.listing (Listing.Style.of given) operands)
    for (path, fault) in faults do
      complain call ("cannot access " ++ Quoted.shell path ++ ": " ++ fault.summary)
    say call text (if faults.isEmpty then 0 else 2)

end LintRoster.Machine.Tool
